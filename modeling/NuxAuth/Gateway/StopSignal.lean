import NuxAuth.Gateway.ReloadPipeline

/-!
# From the stop signal to the end of the process

The first SIGTERM or Ctrl-C asks the loop for a shutdown, through the channel
that the reloads use too; so does the task itself, at its start, where Ctrl-C
cannot be listened for.  The deadline is set once, when the loop receives the
command, and nothing moves it: the task sends one command and ends.

So a stop signal ends the Guard, at the latest with the first tick after the
deadline, however many reloads are under way; and nothing else ends it.
-/

namespace NuxAuth.Gateway

open NuxAuth.Core NuxAuth.Core.GuardLoop
open NuxAuth.Lib.BoundedChannel NuxAuth.Lib.FairBehavior
open NuxAuth.Lib.RecordedRun

variable {PeerId : Type} [DecidableEq PeerId]

/-! ## One command only -/

/-- The command of the stop task. -/
def isShutdown : GuardControl PeerId → Bool
  | .shutdown _ => true
  | _ => false

/-- The shutdowns that are queued or were carried out. -/
def shutdowns (process : GuardProcess PeerId) : Nat :=
  process.channel.queue.countP isShutdown +
    (if process.loop.shutdownDeadline.isSome then 1 else 0)

/-- The task sends one command, with the signal and not before. -/
structure StopsOnce (process : GuardProcess PeerId) : Prop where
  one : shutdowns process ≤ 1
  none : process.stop ≠ .ended → shutdowns process = 0

section Steps

variable {Multiaddr Namespace : Type} [PeerIdText PeerId]
  [PeerIdentity PeerId] [MultiaddrText Multiaddr] [NamespaceText Namespace]
  {toml : TomlEdit} {registry : TunnelRegistry PeerId}
  {process next : GuardProcess PeerId} {event : HostEvent PeerId}
  {actions : List (HostAction PeerId)}

/-- The steps of the task that asks for the shutdown. -/
inductive StopStep (process : GuardProcess PeerId) :
    HostEvent PeerId → StopPhase → Prop where
  | kept {event : HostEvent PeerId} (claims : event ≠ .claimStop)
      (pushes : event ≠ .pushStop) : StopStep process event process.stop
  | noted (waiting : process.stop = .waiting) :
      StopStep process .stopSignal .signalled
  | claimed {phase : StopPhase} (signalled : process.stop = .signalled)
      (claims : phase = .sending ∨
        phase = .ended ∧ process.channel.closed = true) :
      StopStep process .claimStop phase
  | pushed (sending : process.stop = .sending)
      (granted : .stop ∈ process.channel.granted) :
      StopStep process .pushStop .ended
  | refused (sending : process.stop = .sending)
      (closed : process.channel.closed = true) :
      StopStep process .refuseStop .ended

theorem HostStep.stopPhase
    (step : HostStep Multiaddr Namespace toml registry process event next
      actions) :
    StopStep process event next.stop := by
  cases step with
  | stopNoted waiting => exact .noted waiting
  | readEnd count reading ended =>
      generalize Gateway.reload PeerId Multiaddr Namespace toml _ = outcome
      cases outcome with
      | refused error => exact .kept (by simp) (by simp)
      | reloadWhitelist list =>
          rw [GuardProcess.concludeReload, GuardProcess.claimReload]
          split
          · exact .kept (by simp) (by simp)
          · exact .kept (by simp) (by simp)
  | claimedStop signalled =>
      rw [GuardProcess.claimStop]
      split
      · next closed => exact .claimed signalled (Or.inr ⟨rfl, closed⟩)
      · exact .claimed signalled (Or.inl rfl)
  | pushedStop sending granted => exact .pushed sending granted
  | refusedStop sending closed waits => exact .refused sending closed
  | _ => exact .kept (by simp) (by simp)

theorem StopsOnce.step (once : StopsOnce process) (wired : Wired process)
    (step : HostStep Multiaddr Namespace toml registry process event next
      actions) :
    StopsOnce next := by
  have moved := step.stopPhase
  have ended : next.stop ≠ .ended → process.stop ≠ .ended := by
    intro going
    generalize next.stop = after at moved going
    cases moved with
    | kept => exact going
    | noted waiting =>
        rw [waiting]
        simp
    | claimed signalled =>
        rw [signalled]
        simp
    | pushed | refused => exact absurd rfl going
  have bounds : shutdowns next ≤ 1 ∧
      (next.stop ≠ .ended → shutdowns next = shutdowns process) := by
    have one := once.one
    cases step.queue with
    | kept other queue orders =>
        have same : shutdowns next = shutdowns process := by
          rw [shutdowns, shutdowns, queue, orders.deadline]
        exact ⟨same.trans_le one, fun _ => same⟩
    | reloads sending sent queue orders =>
        have same : shutdowns next = shutdowns process := by
          simp [shutdowns, queue, orders.deadline, isShutdown]
        exact ⟨same.trans_le one, fun _ => same⟩
    | stops sending queue orders =>
        have none := once.none (by simp [sending])
        have more : shutdowns next = shutdowns process + 1 := by
          simp only [shutdowns, queue, orders.deadline, List.countP_append,
            List.countP_singleton, isShutdown, if_true]
          omega
        refine ⟨by omega, fun going => ?_⟩
        generalize next.stop = after at moved going
        cases moved with
        | kept claims pushes => exact absurd rfl pushes
        | pushed => exact absurd rfl going
    | received queue taken =>
        have message := wired.messages
        rw [queue, List.forall_mem_cons] at message
        rename_i now command logged
        have same : shutdowns next = shutdowns process := by
          cases command with
          | reloadWhitelist list =>
              simp only [shutdowns, queue, deadline_of_reload taken,
                List.countP_cons, isShutdown]
              simp
          | shutdown gracePeriod =>
              have counted : shutdowns process =
                  next.channel.queue.countP isShutdown + 1 +
                    (if process.loop.shutdownDeadline.isSome then 1
                      else 0) := by
                simp [shutdowns, queue, List.countP_cons, isShutdown]
              rw [counted] at one ⊢
              simp only [shutdowns, (orders_of_shutdown taken).2,
                Option.isSome_some, if_true]
              omega
          | revoke peer => exact message.1.elim
          | allow peer roles => exact message.1.elim
        exact ⟨same.trans_le one, fun _ => same⟩
  exact ⟨bounds.1, fun going =>
    (bounds.2 going).trans (once.none (ended going))⟩

/-- A deadline stays once nothing more can be asked for. -/
theorem deadline_kept {deadline : Nat} (once : StopsOnce process)
    (wired : Wired process)
    (requested : process.loop.shutdownDeadline = some deadline)
    (step : HostStep Multiaddr Namespace toml registry process event next
      actions) :
    next.loop.shutdownDeadline = some deadline := by
  cases step.queue with
  | kept other queue orders => exact orders.deadline.trans requested
  | reloads sending sent queue orders =>
      exact orders.deadline.trans requested
  | stops sending queue orders => exact orders.deadline.trans requested
  | received queue taken =>
      have message := wired.messages
      have one := once.one
      rw [queue, List.forall_mem_cons] at message
      rename_i now command logged
      cases command with
      | reloadWhitelist list => exact (deadline_of_reload taken).trans requested
      | shutdown gracePeriod =>
          simp [shutdowns, queue, requested, List.countP_cons, isShutdown]
            at one
      | revoke peer => exact message.1.elim
      | allow peer roles => exact message.1.elim

/-- A place that was granted stays so while the task sends. -/
theorem stop_granted_kept (sending : process.stop = .sending)
    (granted : .stop ∈ process.channel.granted)
    (still : next.stop = .sending)
    (step : HostStep Multiaddr Namespace toml registry process event next
      actions) :
    .stop ∈ next.channel.granted := by
  rcases step.channel with ⟨tick, moved⟩
  rcases moved.moves with ⟨messages, moves⟩
  rcases granted_step granted (stepChannel_step moves) with
    kept | ⟨message, rfl⟩
  · exact kept
  · have balance := moved.stop
    simp [sending, still] at balance

omit [PeerIdText PeerId] in
/-- Streams and tasks do not end the loop. -/
theorem running_of_tunnel {loop after : GuardLoop PeerId}
    {happened : GuardEvent PeerId} {logged : List (GuardAction PeerId)}
    (tunnel : happened.OfTunnel)
    (taken : runGuardLoop registry loop happened = some (after, logged)) :
    after.running = loop.running := by
  cases runGuardLoop_step taken with
  | streamOverCap found serving authorized reserved full =>
      rcases peerSemaphore_cases reserved with ⟨-, rfl⟩ | ⟨-, -, rfl⟩
      · rfl
      · rfl
  | streamSpawned found serving authorized reserved permitted =>
      rcases peerSemaphore_cases reserved with ⟨-, rfl⟩ | ⟨-, -, rfl⟩
      · rfl
      · rfl
  | streamRefused | streamUnauthenticated | taskContinued | taskEnded => rfl
  | idle control running quiet =>
      rcases quiet with rfl | rfl | ⟨now, rfl⟩ <;> exact tunnel.elim
  | _ => exact tunnel.elim

/-- The loop returns at a tick, and only after a shutdown was received. -/
theorem stops_at_tick (running : process.loop.running = true)
    (stopped : next.loop.running = false)
    (step : HostStep Multiaddr Namespace toml registry process event next
      actions) :
    ∃ now deadline, event = .loop (.drainTick now) ∧
      process.loop.shutdownDeadline = some deadline ∧
        (process.loop.global = registry.maxStreamsTotal ∨ deadline ≤ now) := by
  have unchanged : next.loop ≠ process.loop := by
    intro same
    rw [same, running] at stopped
    cases stopped
  cases step with
  | readEnd count reading ended =>
      exact absurd (concludeReload_queue process _).2 unchanged
  | claimedStop signalled =>
      exact absurd (claimStop_queue process).2 unchanged
  | commanded now isOpen popped taken =>
      have still := (running_of_command taken).2
      cases still.symm.trans stopped
  | looped other last taken =>
      rename_i happened loop logged
      by_cases tunnel : happened.OfTunnel
      · have still := running_of_tunnel tunnel taken
        cases running.symm.trans (still.symm.trans stopped)
      · rcases runGuardLoop_stops taken tunnel running stopped with
          ⟨now, deadline, rfl, requested, reason⟩
        exact ⟨now, deadline, rfl, requested, reason⟩
  | _ => exact absurd rfl unchanged

end Steps

/-! ## The way of the signal -/

section Behaviors

variable {Multiaddr Namespace : Type} [PeerIdText PeerId]
  [PeerIdentity PeerId] [MultiaddrText Multiaddr] [NamespaceText Namespace]
  {toml : TomlEdit} {registry : TunnelRegistry PeerId}
  {behavior : Behavior (stepProcess Multiaddr Namespace toml registry)}

theorem stopsOnce_always (wired : Wired (behavior.state 0))
    (once : StopsOnce (behavior.state 0)) (moment : Nat) :
    StopsOnce (behavior.state moment) := by
  induction moment with
  | zero => exact once
  | succ moment induction =>
      exact induction.step (wired_always wired moment)
        (stepProcess_step (behavior.taken moment))

theorem closed_later {moment later : Nat} (after : moment ≤ later)
    (closed : (behavior.state moment).channel.closed = true) :
    (behavior.state later).channel.closed = true := by
  induction later, after using Nat.le_induction with
  | base => exact closed
  | succ later after induction =>
      exact closed_kept (stepProcess_step (behavior.taken later)) induction

theorem noted_of_stopSignal {process next : GuardProcess PeerId}
    {actions : List (HostAction PeerId)}
    (step : HostStep Multiaddr Namespace toml registry process .stopSignal next
      actions) :
    next.stop ≠ .waiting := by
  cases step with
  | stopNoted waiting => simp
  | stopAgain noted => exact noted

/-- A task that waited and no longer does was signalled. -/
theorem signalled_before (waiting : (behavior.state 0).stop = .waiting)
    {moment : Nat} (noted : (behavior.state moment).stop ≠ .waiting) :
    ∃ signal, signal < moment ∧ behavior.event signal = .stopSignal ∧
      (behavior.state (signal + 1)).stop = .signalled := by
  induction moment with
  | zero => exact absurd waiting noted
  | succ moment induction =>
      by_cases still : (behavior.state moment).stop = .waiting
      · have moved := (stepProcess_step (behavior.taken moment)).stopPhase
        generalize phase : (behavior.state (moment + 1)).stop = after
          at moved noted
        generalize happened : behavior.event moment = event at moved
        cases moved with
        | kept => exact absurd still noted
        | noted => exact ⟨moment, Nat.lt_succ_self _, happened, phase⟩
        | claimed signalled => cases still.symm.trans signalled
        | pushed sending | refused sending => cases still.symm.trans sending
      · rcases induction still with ⟨signal, before, same⟩
        exact ⟨signal, Nat.lt_succ_of_lt before, same⟩

theorem claims_of_signalled (scheduled : Scheduled behavior) :
    LeadsTo behavior (fun process => process.stop = .signalled)
      fun process =>
        process.stop = .sending ∨ process.channel.closed = true := by
  refine leadsTo_of_weaklyFair scheduled.claims ?_
  intro moment signalled
  have step := stepProcess_step (behavior.taken moment)
  have moved := step.stopPhase
  generalize phase : (behavior.state (moment + 1)).stop = after at moved
  generalize happened : behavior.event moment = event at moved
  cases moved with
  | kept claims => exact Or.inl ⟨signalled, claims⟩
  | noted waiting => cases signalled.symm.trans waiting
  | claimed _ claims =>
      rcases claims with sending | ⟨-, closed⟩
      · exact Or.inr (Or.inl sending)
      · exact Or.inr (Or.inr (closed_kept step closed))
  | pushed sending | refused sending => cases signalled.symm.trans sending

/-- The shutdown is queued behind so many messages. -/
def ShutdownAt (place : Nat) (process : GuardProcess PeerId) : Prop :=
  ∃ front gracePeriod back,
    process.channel.queue = front ++ .shutdown gracePeriod :: back ∧
      front.length = place

theorem queue_of_pushStop {process next : GuardProcess PeerId}
    {actions : List (HostAction PeerId)}
    (step : HostStep Multiaddr Namespace toml registry process .pushStop next
      actions) :
    next.channel.queue =
      process.channel.queue ++ [.shutdown defaultShutdownGracePeriod] := by
  cases step
  rfl

theorem stopSending_step {moment : Nat}
    (sending : (behavior.state moment).stop = .sending) :
    ((behavior.state (moment + 1)).stop = .sending ∧
        behavior.event moment ≠ .pushStop) ∨
      (.stop ∈ (behavior.state moment).channel.granted ∧
        ∃ place, ShutdownAt place (behavior.state (moment + 1))) ∨
        (behavior.state moment).channel.closed = true := by
  have step := stepProcess_step (behavior.taken moment)
  have moved := step.stopPhase
  generalize phase : (behavior.state (moment + 1)).stop = after at moved
  generalize happened : behavior.event moment = event at moved
  cases moved with
  | kept claims pushes => exact Or.inl ⟨sending, pushes⟩
  | noted waiting => cases sending.symm.trans waiting
  | claimed signalled => cases sending.symm.trans signalled
  | pushed _ granted =>
      rw [happened] at step
      exact Or.inr (Or.inl ⟨granted, _, _, _, [], queue_of_pushStop step, rfl⟩)
  | refused _ closed => exact Or.inr (Or.inr closed)

/-- The task gets its command into the channel. -/
theorem shutdownAt_of_sending (wired : Wired (behavior.state 0))
    (scheduled : Scheduled behavior) :
    LeadsTo behavior (fun process => process.stop = .sending)
      fun process => (∃ place, ShutdownAt place process) ∨
        process.channel.closed = true := by
  have waits : LeadsTo behavior (fun process => process.stop = .sending)
      fun process => (process.stop = .sending ∧
        .stop ∈ process.channel.granted) ∨ process.channel.closed = true := by
    refine sends_leadsTo_granted wired scheduled ?_ ?_
    · intro process wired sending
      rw [wired.stop, GuardProcess.stopSends, sending]
      exact Nat.one_pos
    · intro moment sending none isOpen
      rcases stopSending_step sending with
        ⟨still, -⟩ | ⟨granted, -⟩ | closed
      · exact still
      · exact absurd granted none
      · rw [isOpen] at closed
        cases closed
  have pushes : LeadsTo behavior
      (fun process => process.stop = .sending ∧
        .stop ∈ process.channel.granted)
      fun process => (∃ place, ShutdownAt place process) ∨
        process.channel.closed = true := by
    refine leadsTo_unless_closed
      (scheduled.pushesStop.weaken fun _ here => here.1.2) ?_
    rintro moment ⟨sending, granted⟩ isOpen
    rcases stopSending_step sending with ⟨still, other⟩ | ⟨-, queued⟩ | closed
    · exact Or.inl ⟨⟨still, stop_granted_kept sending granted still
        (stepProcess_step (behavior.taken moment))⟩, other⟩
    · exact Or.inr queued
    · rw [isOpen] at closed
      cases closed
  exact waits.trans (pushes.or
    ((LeadsTo.refl behavior _).mono (fun _ here => here) fun _ => Or.inr))

/-- The queue in front of the shutdown gets shorter until it is received. -/
theorem ShutdownAt.step {place : Nat} {process next : GuardProcess PeerId}
    {event : HostEvent PeerId} {actions : List (HostAction PeerId)}
    (queued : ShutdownAt place process)
    (step : HostStep Multiaddr Namespace toml registry process event next
      actions) :
    (ShutdownAt place next ∧ ∀ now, event ≠ .receive now) ∨
      (∃ smaller, smaller < place ∧ ShutdownAt smaller next) ∨
        ∃ deadline, next.loop.shutdownDeadline = some deadline := by
  rcases queued with ⟨front, gracePeriod, back, line, length⟩
  cases step.queue with
  | kept other queue orders =>
      exact Or.inl ⟨⟨front, gracePeriod, back, queue.trans line, length⟩,
        other⟩
  | reloads sending sent queue orders =>
      rename_i list
      refine Or.inl ⟨⟨front, gracePeriod, back ++ [.reloadWhitelist list], ?_,
        length⟩, by simp⟩
      rw [queue, line, List.append_assoc]
      rfl
  | stops sending queue orders =>
      refine Or.inl ⟨⟨front, gracePeriod,
        back ++ [.shutdown defaultShutdownGracePeriod], ?_, length⟩, by simp⟩
      rw [queue, line, List.append_assoc]
      rfl
  | received queue taken =>
      rw [line] at queue
      cases front with
      | nil =>
          cases queue
          exact Or.inr (Or.inr ⟨_, (orders_of_shutdown taken).2⟩)
      | cons first rest =>
          rw [List.cons_append, List.cons.injEq] at queue
          refine Or.inr (Or.inl ⟨rest.length, ?_, rest, gracePeriod, back,
            queue.2.symm, rfl⟩)
          rw [← length]
          exact Nat.lt_succ_self _

theorem deadline_of_shutdownAt (scheduled : Scheduled behavior) :
    LeadsTo behavior (fun process => ∃ place, ShutdownAt place process)
      fun process =>
        (∃ deadline, process.loop.shutdownDeadline = some deadline) ∨
          process.channel.closed = true := by
  refine leadsTo_unless_closed_ofRank
    (fun place => scheduled.receives.weaken ?_) ?_
  · rintro process ⟨⟨front, gracePeriod, back, line, -⟩, isOpen⟩
    refine ⟨isOpen, ?_⟩
    rw [line]
    exact List.append_ne_nil_of_right_ne_nil _ (List.cons_ne_nil _ _)
  · intro place moment queued _
    rcases queued.step (stepProcess_step (behavior.taken moment)) with
      ⟨still, other⟩ | further
    · refine Or.inl ⟨still, ?_⟩
      rintro ⟨now, receives⟩
      exact other now receives
    · exact Or.inr further

/-- A tick after the deadline ends the loop. -/
theorem halted_of_tick {process next : GuardProcess PeerId}
    {deadline now : Nat} {actions : List (HostAction PeerId)}
    (requested : process.loop.shutdownDeadline = some deadline)
    (reached : deadline ≤ now)
    (step : HostStep Multiaddr Namespace toml registry process
      (.loop (.drainTick now)) next actions) :
    next.loop.running = false := by
  cases step with
  | looped other last taken =>
      rcases Option.ite_none_right_eq_some.mp taken with ⟨-, ticked⟩
      rw [GuardLoop.drainCheck, requested] at ticked
      simp only [if_pos (Or.inr reached)] at ticked
      cases ticked
      rfl

theorem halted_of_deadline (wired : Wired (behavior.state 0))
    (once : StopsOnce (behavior.state 0)) (scheduled : Scheduled behavior)
    (deadline : Nat) :
    LeadsTo behavior
      (fun process => process.loop.running = true ∧
        process.loop.shutdownDeadline = some deadline)
      fun process => process.loop.running = false := by
  refine leadsTo_of_weaklyFair (scheduled.ticks deadline) ?_
  rintro moment ⟨running, requested⟩
  have step := stepProcess_step (behavior.taken moment)
  by_cases still : (behavior.state (moment + 1)).loop.running = true
  · refine Or.inl ⟨⟨still, deadline_kept (stopsOnce_always wired once moment)
      (wired_always wired moment) requested step⟩, ?_⟩
    rintro ⟨now, happened, reached⟩
    rw [happened] at step
    cases still.symm.trans (halted_of_tick requested reached step)
  · exact Or.inr ((Bool.not_eq_true _).mp still)

theorem closed_of_deadline (wired : Wired (behavior.state 0))
    (once : StopsOnce (behavior.state 0)) (scheduled : Scheduled behavior)
    (deadline : Nat) :
    LeadsTo behavior
      (fun process => process.loop.shutdownDeadline = some deadline)
      fun process => process.channel.closed = true := by
  intro moment requested
  by_cases running : (behavior.state moment).loop.running = true
  · rcases halted_of_deadline wired once scheduled deadline moment
        ⟨running, requested⟩ with
      ⟨later, since, halted⟩
    refine ⟨later, since, ?_⟩
    show (behavior.state later).channel.closed = true
    rw [(wired_always wired later).closed, halted]
    rfl
  · refine ⟨moment, Nat.le_refl _, ?_⟩
    show (behavior.state moment).channel.closed = true
    rw [(wired_always wired moment).closed, (Bool.not_eq_true _).mp running]
    rfl

theorem closed_of_signalled (wired : Wired (behavior.state 0))
    (once : StopsOnce (behavior.state 0)) (scheduled : Scheduled behavior) :
    LeadsTo behavior (fun process => process.stop = .signalled)
      fun process => process.channel.closed = true := by
  have stays := LeadsTo.refl behavior fun process =>
    process.channel.closed = true
  have fromDeadline := (LeadsTo.ofExists
    (closed_of_deadline wired once scheduled)).or stays
  have fromQueue := ((deadline_of_shutdownAt scheduled).trans
    fromDeadline).or stays
  have fromSending := ((shutdownAt_of_sending wired scheduled).trans
    fromQueue).or stays
  exact (claims_of_signalled scheduled).trans fromSending

/-! ## Where the deadline comes from -/

theorem HostStep.deadline {process next : GuardProcess PeerId}
    {event : HostEvent PeerId} {actions : List (HostAction PeerId)}
    (wired : Wired process)
    (step : HostStep Multiaddr Namespace toml registry process event next
      actions) :
    next.loop.shutdownDeadline = process.loop.shutdownDeadline ∨
      ∃ now, event = .receive now ∧
        .shutdown defaultShutdownGracePeriod ∈ process.channel.queue ∧
          .received (.shutdown defaultShutdownGracePeriod) ∈ actions ∧
            next.loop.shutdownDeadline =
              some (now + defaultShutdownGracePeriod) := by
  cases step.queue with
  | kept other queue orders => exact Or.inl orders.deadline
  | reloads sending sent queue orders => exact Or.inl orders.deadline
  | stops sending queue orders => exact Or.inl orders.deadline
  | received =>
      cases step with
      | @commanded now command channel loop logged isOpen popped taken =>
          have first : command ∈ process.channel.queue := by
            rw [(pop_eq_some popped).1]
            exact List.mem_cons_self
          have message := wired.messages command first
          cases command with
          | reloadWhitelist list => exact Or.inl (deadline_of_reload taken)
          | shutdown gracePeriod =>
              cases message
              exact Or.inr ⟨_, rfl, first, List.mem_cons_self,
                (orders_of_shutdown taken).2⟩
          | revoke peer => exact message.elim
          | allow peer roles => exact message.elim

/-- A command under way was asked for by a signal, if the task began by waiting
for one. -/
theorem signalled_of_queued (waiting : (behavior.state 0).stop = .waiting)
    {moment gracePeriod : Nat} (once : StopsOnce (behavior.state moment))
    (queued : .shutdown gracePeriod ∈ (behavior.state moment).channel.queue) :
    ∃ signal, signal < moment ∧ behavior.event signal = .stopSignal := by
  have ended : (behavior.state moment).stop = .ended := by
    by_contra going
    have none := once.none going
    have some : 0 < (behavior.state moment).channel.queue.countP isShutdown :=
      List.countP_pos_iff.mpr ⟨_, queued, rfl⟩
    rw [shutdowns] at none
    omega
  have noted : (behavior.state moment).stop ≠ .waiting := by
    simp [ended]
  rcases signalled_before waiting noted with ⟨signal, before, happened, -⟩
  exact ⟨signal, before, happened⟩

theorem received_before (wired : Wired (behavior.state 0))
    (once : StopsOnce (behavior.state 0))
    (none : (behavior.state 0).loop.shutdownDeadline = none)
    {moment deadline : Nat}
    (requested :
      (behavior.state moment).loop.shutdownDeadline = some deadline) :
    ∃ received since, received < moment ∧
      ((behavior.state 0).stop = .waiting →
        ∃ signal, signal < received ∧ behavior.event signal = .stopSignal) ∧
      behavior.event received = .receive since ∧
        .received (.shutdown defaultShutdownGracePeriod) ∈
            behavior.actions received ∧
          deadline = since + defaultShutdownGracePeriod := by
  induction moment with
  | zero =>
      rw [none] at requested
      cases requested
  | succ moment induction =>
      rcases (stepProcess_step (behavior.taken moment)).deadline
          (wired_always wired moment) with
        same | ⟨now, happened, queued, logged, set⟩
      · rcases induction (same.symm.trans requested) with
          ⟨received, since, earlier, rest⟩
        exact ⟨received, since, Nat.lt_succ_of_lt earlier, rest⟩
      · refine ⟨moment, now, Nat.lt_succ_self _, fun waiting => ?_, happened,
          logged, Option.some.inj (requested.symm.trans set)⟩
        exact signalled_of_queued waiting (stopsOnce_always wired once moment)
          queued

end Behaviors

/-! ## The end of the process -/

section Started

variable {Multiaddr Namespace : Type} [PeerIdText PeerId]
  [PeerIdentity PeerId] [MultiaddrText Multiaddr] [NamespaceText Namespace]
  {toml : TomlEdit}

omit [PeerIdText PeerId] [PeerIdentity PeerId] [MultiaddrText Multiaddr]
  [NamespaceText Namespace] in
theorem stopsOnce_start (config : GuardConfig PeerId Multiaddr Namespace)
    (files : GuardFiles) (listens interrupts : Bool) (metrics : Metrics)
    (connections : List (Connection PeerId)) :
    StopsOnce
      (startGuard config files listens interrupts metrics connections) where
  one := Nat.zero_le _
  none _ := rfl

/--
A stop signal ends the Guard for good, whatever else is under way.  Its loop
ends only at a tick after it received the shutdown that such a signal sent, once
the last stream is released or the grace period is over.  Where Ctrl-C cannot be
listened for, the start sends that shutdown itself, and the Guard ends without a
signal.
-/
theorem stop_signal_ends_guard
    {config : GuardConfig PeerId Multiaddr Namespace} {files : GuardFiles}
    {listens interrupts : Bool} {metrics : Metrics}
    {connections : List (Connection PeerId)}
    {behavior : Behavior
      (stepProcess Multiaddr Namespace toml (guardRegistry config))}
    (begins : behavior.state 0 =
      startGuard config files listens interrupts metrics connections)
    (scheduled : Scheduled behavior) (moment : Nat) :
    (behavior.event moment = .stopSignal ∨ interrupts = false →
        ∃ ended, moment ≤ ended ∧ ∀ later, ended ≤ later →
          (behavior.state later).loop.running = false) ∧
      ((behavior.state moment).loop.running = true →
        (behavior.state (moment + 1)).loop.running = false →
          ∃ received since now, received < moment ∧
            (interrupts = true →
              ∃ signal, signal < received ∧
                behavior.event signal = .stopSignal) ∧
              behavior.event received = .receive since ∧
              .received (.shutdown defaultShutdownGracePeriod) ∈
                behavior.actions received ∧
              behavior.event moment = .loop (.drainTick now) ∧
              ((behavior.state moment).loop.global =
                  (guardRegistry config).maxStreamsTotal ∨
                since + defaultShutdownGracePeriod ≤ now)) := by
  have wired : Wired (behavior.state 0) := by
    rw [begins]
    exact wired_start files listens interrupts rfl
  have once : StopsOnce (behavior.state 0) := by
    rw [begins]
    exact stopsOnce_start config files listens interrupts metrics connections
  have waiting : interrupts = true → (behavior.state 0).stop = .waiting := by
    rintro rfl
    rw [begins]
    rfl
  refine ⟨fun asked => ?_, fun running stopped => ?_⟩
  · have sends : ∃ since, (behavior.state since).stop = .signalled := by
      by_cases waits : interrupts = true
      · have happened := asked.resolve_right (by simp [waits])
        have noted : (behavior.state (moment + 1)).stop ≠ .waiting := by
          have step := stepProcess_step (behavior.taken moment)
          rw [happened] at step
          exact noted_of_stopSignal step
        rcases signalled_before (waiting waits) noted with
          ⟨signal, -, -, signalled⟩
        exact ⟨signal + 1, signalled⟩
      · refine ⟨0, ?_⟩
        rw [begins, startGuard, GuardProcess.start, if_neg waits]
    rcases sends with ⟨since, signalled⟩
    rcases closed_of_signalled wired once scheduled _ signalled with
      ⟨ended, -, closed⟩
    refine ⟨max moment ended, Nat.le_max_left _ _, fun later after => ?_⟩
    have still := closed_later ((Nat.le_max_right _ _).trans after) closed
    rw [(wired_always wired later).closed] at still
    simpa using still
  · rcases stops_at_tick running stopped
        (stepProcess_step (behavior.taken moment)) with
      ⟨now, deadline, ticks, requested, reason⟩
    rcases received_before wired once (by rw [begins]; rfl) requested with
      ⟨received, since, earlier, noted, happened, logged, rfl⟩
    exact ⟨received, since, now, earlier, fun waits => noted (waiting waits),
      happened, logged, ticks, reason⟩

end Started

section SmallStop

/-- The operator stops the Guard, which has no stream to wait for. -/
def stopsGuard : List (HostEvent BytePeer) :=
  [.stopSignal, .claimStop, .pushStop, .receive 0, .loop (.drainTick 0)]

/-- Nothing is left to do in a process whose loop has returned. -/
structure Stopped (process : GuardProcess BytePeer) : Prop where
  hangup : process.hangup = false
  reload : process.reload = .waiting
  stop : process.stop = .ended
  queue : process.channel.queue = []
  granted : process.channel.granted = []
  running : process.loop.running = false
  idles : stepProcess PlainText PlainText blankToml
    (guardRegistry smallConfig) process .stopSignal = some (process, [])

theorem stopsGuard_run :
    ∃ taken finish,
      Run (stepProcess PlainText PlainText blankToml
          (guardRegistry smallConfig)) smallProcess taken finish ∧
        taken.map Transition.event = stopsGuard ∧ Stopped finish ∧
          taken[4]?.map (fun last => last.before.loop.running) =
            some true := by
  exact ⟨_, _, Run.cons rfl (Run.cons rfl (Run.cons rfl (Run.cons rfl
    (Run.cons rfl .start)))), rfl, ⟨rfl, rfl, rfl, rfl, rfl, rfl, rfl⟩, rfl⟩

theorem scheduled_of_stopped {finish : GuardProcess BytePeer}
    {taken : List (HostTransition BytePeer)} {idle : HostEvent BytePeer}
    {behavior : Behavior (stepProcess PlainText PlainText blankToml
      (guardRegistry smallConfig))}
    (stopped : Stopped finish)
    (rests : RestsAfter behavior taken finish idle) :
    Scheduled behavior where
  hangups := rests.weaklyFair (by simp [stopped.hangup])
  opens := rests.weaklyFair (by simp [stopped.reload])
  reads := rests.weaklyFair (by simp [stopped.reload])
  pushesReload := rests.weaklyFair (by simp [stopped.granted])
  claims := rests.weaklyFair (by simp [stopped.stop])
  pushesStop := rests.weaklyFair (by simp [stopped.granted])
  receives := rests.weaklyFair (by simp [stopped.queue])
  ticks _ := rests.weaklyFair (by simp [stopped.running])

/-- The loop has returned after the tick, for the reasons stated. -/
theorem stop_signal_ends_guard_small :
    ∃ behavior : Behavior (stepProcess PlainText PlainText blankToml
        (guardRegistry smallConfig)),
      behavior.state 0 = smallProcess ∧ Scheduled behavior ∧
        behavior.event 0 = .stopSignal ∧
        (∃ ended, 0 ≤ ended ∧ ∀ later, ended ≤ later →
          (behavior.state later).loop.running = false) ∧
        ∃ signal received since now, signal < received ∧ received < 4 ∧
          behavior.event signal = .stopSignal ∧
            behavior.event received = .receive since ∧
            .received (.shutdown defaultShutdownGracePeriod) ∈
              behavior.actions received ∧
            behavior.event 4 = .loop (.drainTick now) ∧
            ((behavior.state 4).loop.global =
                (guardRegistry smallConfig).maxStreamsTotal ∨
              since + defaultShutdownGracePeriod ≤ now) := by
  rcases stopsGuard_run with ⟨taken, finish, run, events, stopped, last⟩
  rcases exists_restsAfter run stopped.idles with ⟨behavior, begins, rests⟩
  have scheduled := scheduled_of_stopped stopped rests
  have length : taken.length = 5 := by
    rw [← List.length_map Transition.event, events]
    rfl
  have first : behavior.event 0 = .stopSignal := by
    have here : (taken.map Transition.event)[0]? = some .stopSignal := by
      rw [events]
      rfl
    rw [List.getElem?_map] at here
    rcases Option.map_eq_some_iff.mp here with ⟨transition, found, happened⟩
    rw [(rests.ran 0 transition found).2, happened]
  rcases Option.map_eq_some_iff.mp last with ⟨transition, found, runs⟩
  have running : (behavior.state 4).loop.running = true := by
    rw [(rests.ran 4 transition found).1, runs]
  have halted : (behavior.state (4 + 1)).loop.running = false := by
    rw [(rests.rests 5 length.le).1, stopped.running]
  rcases (stop_signal_ends_guard begins scheduled 4).2 running halted with
    ⟨received, since, now, earlier, noted, happened, rest⟩
  rcases noted rfl with ⟨signal, before, asked⟩
  exact ⟨behavior, begins, scheduled, first,
    (stop_signal_ends_guard begins scheduled 0).1 (Or.inl first), signal,
    received, since, now, before, earlier, asked, happened, rest⟩

end SmallStop

end NuxAuth.Gateway
