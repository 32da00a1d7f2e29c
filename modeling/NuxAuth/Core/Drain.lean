import NuxAuth.Core.DrainLoop

/-!
# Permits, counters and the end of the drain

In every state of the small steps the permits still available and those held
add up to the caps, and every dequeued stream is counted once: as opened, as
denied or as active.  The tick that ends the drain finds every global permit
back, which leaves no task, or the deadline passed.
-/

namespace NuxAuth.Core

open NuxAuth.Lib.FiniteTable
open NuxAuth.Lib.RecordedRun
open GuardLoop GuardAuthenticator

variable {PeerId : Type}

/-! ## What a stream or an ending task still holds -/

namespace StreamStage

/-- Global permits held for the stream the loop is dealing with. -/
def globalPermits : StreamStage PeerId → Nat
  | .permitted .. => 1
  | .started .. => 1
  | _ => 0

/-- Permits of a semaphore held for that stream. -/
def peerPermits (semaphore : Nat) : StreamStage PeerId → Nat
  | .reserved _ _ _ held => if held = semaphore then 1 else 0
  | .permitted _ _ _ held => if held = semaphore then 1 else 0
  | .started _ _ _ held => if held = semaphore then 1 else 0
  | .refusing (some held) => if held = semaphore then 1 else 0
  | .returning held => if held = semaphore then 1 else 0
  | _ => 0

/-- The stream was dequeued, and no counter has seen it yet. -/
def uncounted : StreamStage PeerId → Nat
  | .dequeued .. => 1
  | .reserved .. => 1
  | .permitted .. => 1
  | .refusing _ => 1
  | _ => 0

/-- The stream was counted as active, and its task is not spawned yet. -/
def active : StreamStage PeerId → Nat
  | .started .. => 1
  | _ => 0

end StreamStage

namespace EndingTask

/-- The task still holds its permit of the semaphore. -/
def holdsPeer (semaphore : Nat) (task : EndingTask) : Bool :=
  match task.stage with
  | .released => false
  | _ => task.semaphore = semaphore

/-- `record_tunnel_finished` is still to come. -/
def isActive (task : EndingTask) : Bool :=
  match task.stage with
  | .returned _ => true
  | _ => false

end EndingTask

/-- The task was given its permit by the semaphore. -/
def ServeTask.drawsFrom (semaphore : Nat) (task : ServeTask PeerId) : Bool :=
  task.semaphore = semaphore

namespace DrainLoop

/-- The tasks that were spawned and still hold their global permit. -/
def tasksLeft (state : DrainLoop PeerId) : Nat :=
  len state.loop.tasks + len state.ending

/-- The tasks that hold a permit of the semaphore. -/
def drawn (state : DrainLoop PeerId) (semaphore : Nat) : Nat :=
  tally (fun _ task => task.drawsFrom semaphore) state.loop.tasks +
    tally (fun _ task => task.holdsPeer semaphore) state.ending

/-- The tasks counted as active. -/
def tasksActive (state : DrainLoop PeerId) : Nat :=
  len state.loop.tasks + tally (fun _ task => task.isActive) state.ending

end DrainLoop

/-- The streams accounted for by the three tunnel counters. -/
def Metrics.counted (metrics : Metrics) : Nat :=
  metrics.tunnelsOpened.toNat + metrics.tunnelsDenied.toNat +
    metrics.tunnelsActive.toNat

/-! ## What the delegated steps leave alone -/

section Frame

variable [DecidableEq PeerId]

theorem GuardLoop.revokePeers_metrics (loop : GuardLoop PeerId)
    (peers : List PeerId) :
    (loop.revokePeers peers).1.metrics = loop.metrics ∧
      (loop.revokePeers peers).1.running = loop.running := by
  induction peers generalizing loop with
  | nil => exact ⟨rfl, rfl⟩
  | cons peer rest induction =>
      have head : (loop.revokePeer peer).1.metrics = loop.metrics ∧
          (loop.revokePeer peer).1.running = loop.running := by
        unfold revokePeer
        split <;> exact ⟨rfl, rfl⟩
      have tail := induction (loop.revokePeer peer).1
      exact ⟨tail.1.trans head.1, tail.2.trans head.2⟩

/-- Permits, tasks and tunnel counters are as before. -/
structure TunnelFrame (loop next : GuardLoop PeerId) : Prop where
  global : next.global = loop.global
  semaphores : next.semaphores = loop.semaphores
  nextSemaphore : next.nextSemaphore = loop.nextSemaphore
  tasks : next.tasks = loop.tasks
  nextTask : next.nextTask = loop.nextTask
  perPeer : ∀ peer semaphore, next.perPeer.lookup peer = some semaphore →
    loop.perPeer.lookup peer = some semaphore
  opened : next.metrics.tunnelsOpened = loop.metrics.tunnelsOpened
  denied : next.metrics.tunnelsDenied = loop.metrics.tunnelsDenied
  active : next.metrics.tunnelsActive = loop.metrics.tunnelsActive

theorem GuardLoop.Revocation.tunnelFrame {loop : GuardLoop PeerId}
    {peers : List PeerId} {actions : List (GuardAction PeerId)}
    (revocation : Revocation loop (loop.revokePeers peers).1 peers actions) :
    TunnelFrame loop (loop.revokePeers peers).1 := by
  rcases revocation.frame with ⟨-, permits, number, tasks, nextTask, global⟩
  have metrics := (loop.revokePeers_metrics peers).1
  refine ⟨global, permits, number, tasks, nextTask, ?_, ?_, ?_, ?_⟩
  · intro peer semaphore entry
    rw [revocation.perPeer] at entry
    exact (Option.ite_none_left_eq_some.mp entry).2
  · rw [metrics]
  · rw [metrics]
  · rw [metrics]

variable [PeerIdentity PeerId] {registry : TunnelRegistry PeerId}
    {loop next : GuardLoop PeerId} {event : GuardEvent PeerId}
    {actions : List (GuardAction PeerId)}

theorem GuardStep.tunnelFrame
    (step : GuardStep registry loop event next actions)
    (apart : ¬ event.OfTunnel) : TunnelFrame loop next := by
  cases step with
  | closedLast found last =>
      refine ⟨rfl, rfl, rfl, rfl, rfl, ?_, rfl, rfl, rfl⟩
      intro peer semaphore entry
      rw [lookup_erase_eq_ite] at entry
      exact (Option.ite_none_left_eq_some.mp entry).2
  | streamRefused | streamUnauthenticated | streamOverCap | streamSpawned
  | taskContinued | taskEnded => exact absurd trivial apart
  | revoked peer now => exact (revokePeers_revocation loop [peer]).tunnelFrame
  | reloaded newWhitelist now =>
      rcases (revokePeers_revocation (loop.replaceWhitelist newWhitelist)
        (loop.toRevoke newWhitelist)).tunnelFrame with
        ⟨global, permits, number, tasks, nextTask, entries, opened, denied,
          active⟩
      exact ⟨global, permits, number, tasks, nextTask, entries, opened, denied,
        active⟩
  | _ => exact ⟨rfl, rfl, rfl, rfl, rfl, fun _ _ entry => entry, rfl, rfl, rfl⟩

omit [PeerIdentity PeerId] [DecidableEq PeerId] in
private theorem drainCheck_stops {now : Nat}
    (checked : loop.drainCheck registry now = some next)
    (running : loop.running = true) (stopped : next.running = false) :
    ∃ deadline, loop.shutdownDeadline = some deadline ∧
      (loop.global = registry.maxStreamsTotal ∨ deadline ≤ now) := by
  unfold drainCheck at checked
  split at checked
  · cases checked
  · rename_i deadline requested
    split at checked
    · rename_i reason
      exact ⟨deadline, requested, reason⟩
    · cases checked
      exact Bool.noConfusion (running.symm.trans stopped)

/-- Only a tick of the drain timer ends the loop. -/
theorem runGuardLoop_stops
    (taken : runGuardLoop registry loop event = some (next, actions))
    (apart : ¬ event.OfTunnel) (running : loop.running = true)
    (stopped : next.running = false) :
    ∃ now deadline, event = .drainTick now ∧
      loop.shutdownDeadline = some deadline ∧
        (loop.global = registry.maxStreamsTotal ∨ deadline ≤ now) := by
  have unchanged : next.running ≠ loop.running := by
    rw [running, stopped]
    exact Bool.false_ne_true
  cases runGuardLoop_step taken with
  | streamRefused | streamUnauthenticated | streamOverCap | streamSpawned
  | taskContinued | taskEnded => exact absurd trivial apart
  | revoked peer now =>
      exact absurd (loop.revokePeers_metrics [peer]).2 unchanged
  | reloaded newWhitelist now =>
      exact absurd (revokePeers_metrics _ _).2 unchanged
  | idle control still quiet =>
      rcases quiet with rfl | rfl | ⟨now, rfl⟩
      · rcases Option.ite_none_right_eq_some.mp taken with ⟨-, same⟩
        exact absurd (congrArg (fun result => result.1.running)
          (Option.some.inj same)).symm unchanged
      · rcases Option.ite_none_right_eq_some.mp taken with ⟨-, wired⟩
        rcases Option.ite_none_right_eq_some.mp wired with ⟨-, same⟩
        exact absurd (congrArg (fun result => result.1.running)
          (Option.some.inj same)).symm unchanged
      · rcases Option.ite_none_right_eq_some.mp taken with ⟨-, same⟩
        rcases Option.map_eq_some_iff.mp same with ⟨ticked, checked, pair⟩
        cases pair
        rcases drainCheck_stops checked running stopped with
          ⟨deadline, requested, reason⟩
        exact ⟨now, deadline, rfl, requested, reason⟩
  | _ => exact absurd rfl unchanged

/-- A deadline is that of the latest shutdown command. -/
theorem GuardStep.deadline
    (step : GuardStep registry loop event next actions)
    {deadline : Nat} (requested : next.shutdownDeadline = some deadline) :
    (∃ gracePeriod now, event = .control (.shutdown gracePeriod) now ∧
        deadline = now + gracePeriod) ∨
      loop.shutdownDeadline = some deadline ∧ ¬ RequestsShutdown event := by
  cases step with
  | streamOverCap found serving authorized reserved full =>
      rcases peerSemaphore_cases reserved with ⟨-, rfl⟩ | ⟨-, -, rfl⟩ <;>
        exact Or.inr ⟨requested, by simp [RequestsShutdown]⟩
  | streamSpawned found serving authorized reserved permitted =>
      rcases peerSemaphore_cases reserved with ⟨-, rfl⟩ | ⟨-, -, rfl⟩ <;>
        exact Or.inr ⟨requested, by simp [RequestsShutdown]⟩
  | stopping gracePeriod now =>
      cases requested
      exact Or.inl ⟨gracePeriod, now, rfl, rfl⟩
  | revoked peer now =>
      rw [(revokePeers_revocation loop [peer]).shutdownDeadline] at requested
      exact Or.inr ⟨requested, by simp [RequestsShutdown]⟩
  | reloaded newWhitelist now =>
      rw [(revokePeers_revocation (loop.replaceWhitelist newWhitelist)
        _).shutdownDeadline] at requested
      exact Or.inr ⟨requested, by simp [RequestsShutdown]⟩
  | idle control running quiet =>
      refine Or.inr ⟨requested, ?_⟩
      rintro ⟨gracePeriod, now, rfl⟩
      simp at quiet
  | _ => exact Or.inr ⟨requested, by simp [RequestsShutdown]⟩

end Frame

/-! ## Conservation of the permits -/

section Permits

/-- Spawned tasks have numbers of their own, and end only once. -/
structure EndingNumbered (state : DrainLoop PeerId) : Prop where
  tasks : ∀ id ∈ state.loop.tasks, id < state.loop.nextTask
  ending : ∀ id ∈ state.ending, id < state.loop.nextTask
  apart : ∀ id ∈ state.loop.tasks, id ∉ state.ending

private theorem mem_of_lookup {Value : Type} {table : Table Nat Value}
    {id : Nat} {value : Value} (present : table.lookup id = some value) :
    id ∈ table :=
  AList.lookup_isSome.mp (Option.isSome_iff_exists.mpr ⟨value, present⟩)

theorem EndingNumbered.fresh {state : DrainLoop PeerId}
    (numbered : EndingNumbered state) :
    state.loop.tasks.lookup state.loop.nextTask = none := by
  rw [AList.lookup_eq_none]
  intro member
  exact Nat.lt_irrefl _ (numbered.tasks _ member)

/-- A task that is still served does not end yet. -/
theorem EndingNumbered.serving {state : DrainLoop PeerId}
    (numbered : EndingNumbered state) {id : Nat} {task : ServeTask PeerId}
    (found : state.loop.tasks.lookup id = some task) :
    state.ending.lookup id = none :=
  AList.lookup_eq_none.mpr (numbered.apart id (mem_of_lookup found))

variable [DecidableEq PeerId]

/-- Available and held permits add up to the caps. -/
structure PermitsConserved (registry : TunnelRegistry PeerId)
    (state : DrainLoop PeerId) : Prop where
  global : state.loop.global + state.tasksLeft + state.stage.globalPermits =
    registry.maxStreamsTotal
  perPeer : ∀ semaphore < state.loop.nextSemaphore,
    state.loop.semaphores semaphore + state.drawn semaphore +
      state.stage.peerPermits semaphore = registry.maxStreamsPerPeer
  fresh : ∀ semaphore, state.loop.nextSemaphore ≤ semaphore →
    state.drawn semaphore = 0 ∧ state.stage.peerPermits semaphore = 0
  entered : ∀ peer semaphore, state.loop.perPeer.lookup peer = some semaphore →
    semaphore < state.loop.nextSemaphore

variable [PeerIdentity PeerId]
    {registry : TunnelRegistry PeerId} {state next : DrainLoop PeerId}
    {event : DrainEvent PeerId} {actions : List (GuardAction PeerId)}

theorem EndingNumbered.step (numbered : EndingNumbered state)
    (step : DrainStep registry state event next actions) :
    EndingNumbered next := by
  rcases numbered with ⟨tasks, ending, apart⟩
  cases step with
  | delegated waiting elsewhere taken =>
      have frame := (runGuardLoop_step taken).tunnelFrame elsewhere
      refine ⟨?_, ?_, ?_⟩
      · rwa [frame.tasks, frame.nextTask]
      · rwa [frame.nextTask]
      · rwa [frame.tasks]
  | overPeerCap hand reserved full | reserved hand reserved permitted =>
      have sameTasks := peerSemaphore_tasks reserved
      have sameNext := peerSemaphore_nextTask reserved
      refine ⟨?_, ?_, ?_⟩
      · rwa [sameTasks, sameNext]
      · rwa [sameNext]
      · rwa [sameTasks]
  | spawned hand =>
      refine ⟨?_, ?_, ?_⟩
      · intro id member
        rcases (AList.mem_insert _).mp member with rfl | old
        · exact Nat.lt_succ_self _
        · exact Nat.lt_succ_of_lt (tasks id old)
      · intro id member
        exact Nat.lt_succ_of_lt (ending id member)
      · intro id member ended
        rcases (AList.mem_insert _).mp member with rfl | old
        · exact Nat.lt_irrefl _ (ending _ ended)
        · exact apart id old ended
  | continued found =>
      have known := mem_of_lookup found
      refine ⟨?_, ending, ?_⟩
      · intro id member
        rcases (AList.mem_insert _).mp member with rfl | old
        · exact tasks _ known
        · exact tasks id old
      · intro id member
        rcases (AList.mem_insert _).mp member with rfl | old
        · exact apart _ known
        · exact apart id old
  | returned found =>
      have known := mem_of_lookup found
      refine ⟨?_, ?_, ?_⟩
      · intro id member
        exact tasks id (AList.mem_erase.mp member).2
      · intro id member
        rcases (AList.mem_insert _).mp member with rfl | old
        · exact tasks _ known
        · exact ending id old
      · intro id member ended
        rcases AList.mem_erase.mp member with ⟨different, old⟩
        rcases (AList.mem_insert _).mp ended with same | before
        · exact different same
        · exact apart id old before
  | recorded found | releasedPeer found =>
      have known := mem_of_lookup found
      refine ⟨tasks, ?_, ?_⟩
      · intro id member
        rcases (AList.mem_insert _).mp member with rfl | old
        · exact ending _ known
        · exact ending id old
      · intro id member ended
        rcases (AList.mem_insert _).mp ended with rfl | old
        · exact apart _ member known
        · exact apart id member old
  | releasedGlobal found =>
      refine ⟨tasks, ?_, ?_⟩
      · intro id member
        exact ending id (AList.mem_erase.mp member).2
      · intro id member ended
        exact apart id member (AList.mem_erase.mp ended).2
  | _ => exact ⟨tasks, ending, apart⟩

omit [PeerIdentity PeerId] in
theorem PermitsConserved.enter {peer : PeerId} {entered : GuardLoop PeerId}
    {semaphore : Nat} (conserved : PermitsConserved registry state)
    (reserved : peerSemaphore registry state.loop peer =
      (entered, semaphore)) :
    PermitsConserved registry { state with loop := entered } ∧
      semaphore < entered.nextSemaphore := by
  rcases peerSemaphore_cases reserved with ⟨present, rfl⟩ | ⟨-, rfl, rfl⟩
  · exact ⟨conserved, conserved.entered peer semaphore present⟩
  · refine ⟨⟨conserved.global, ?_, ?_, ?_⟩, Nat.lt_succ_self _⟩
    · intro semaphore below
      change Function.update state.loop.semaphores state.loop.nextSemaphore
        registry.maxStreamsPerPeer semaphore + state.drawn semaphore +
          state.stage.peerPermits semaphore = _
      by_cases new : semaphore = state.loop.nextSemaphore
      · have unused := conserved.fresh semaphore (Nat.le_of_eq new.symm)
        rw [new, Function.update_self, ← new, unused.1, unused.2]
        rfl
      · have old : semaphore < state.loop.nextSemaphore :=
          Nat.lt_of_le_of_ne (Nat.le_of_lt_succ below) new
        rw [Function.update_of_ne new]
        exact conserved.perPeer semaphore old
    · intro semaphore above
      exact conserved.fresh semaphore (Nat.le_of_succ_le above)
    · intro other semaphore entry
      rw [lookup_insert_eq_ite] at entry
      split at entry
      · cases entry
        exact Nat.lt_succ_self _
      · exact Nat.lt_succ_of_lt (conserved.entered other semaphore entry)

omit [PeerIdentity PeerId] in
/-- A stage that holds the same permits as the one before. -/
theorem PermitsConserved.restage (conserved : PermitsConserved registry state)
    {stage : StreamStage PeerId} {metrics : Metrics}
    {connections : List (Connection PeerId)}
    (global : stage.globalPermits = state.stage.globalPermits)
    (peer : ∀ semaphore,
      stage.peerPermits semaphore = state.stage.peerPermits semaphore) :
    PermitsConserved registry { state with
      loop := { state.loop with
        metrics := metrics, connections := connections }
      stage := stage } := by
  refine ⟨?_, ?_, ?_, conserved.entered⟩
  · rw [global]
    exact conserved.global
  · intro semaphore below
    rw [peer]
    exact conserved.perPeer semaphore below
  · intro semaphore above
    rw [peer]
    exact conserved.fresh semaphore above

omit [PeerIdentity PeerId] in
/-- The stream takes a permit of a semaphore that has one. -/
theorem PermitsConserved.takePeer
    (conserved : PermitsConserved registry state) {semaphore : Nat}
    (below : semaphore < state.loop.nextSemaphore)
    (permitted : 0 < state.loop.semaphores semaphore)
    {stage : StreamStage PeerId}
    (global : stage.globalPermits = state.stage.globalPermits)
    (peer : ∀ other, stage.peerPermits other =
      state.stage.peerPermits other + if semaphore = other then 1 else 0) :
    PermitsConserved registry { state with
      loop := { state.loop with
        semaphores := Function.update state.loop.semaphores semaphore
          (state.loop.semaphores semaphore - 1) }
      stage := stage } := by
  refine ⟨?_, ?_, ?_, conserved.entered⟩
  · rw [global]
    exact conserved.global
  · intro other within
    have before := conserved.perPeer other within
    change Function.update state.loop.semaphores semaphore
      (state.loop.semaphores semaphore - 1) other + state.drawn other +
        stage.peerPermits other = _
    rw [peer]
    by_cases same : semaphore = other
    · rw [← same] at before ⊢
      rw [Function.update_self, if_pos rfl]
      omega
    · rw [Function.update_of_ne (Ne.symm same), if_neg same]
      omega
  · intro other above
    have unused := conserved.fresh other above
    have different : semaphore ≠ other := by
      rintro rfl
      exact Nat.not_le_of_lt below above
    rw [peer, if_neg different, unused.2]
    exact ⟨unused.1, rfl⟩

omit [PeerIdentity PeerId] in
/-- A permit held by the stream, or by an ending task, goes back. -/
theorem PermitsConserved.giveBack
    (conserved : PermitsConserved registry state) {semaphore : Nat}
    {stage : StreamStage PeerId} {ending : Table Nat EndingTask}
    (global : len ending + stage.globalPermits =
      len state.ending + state.stage.globalPermits)
    (held : ∀ other,
      tally (fun _ task => task.holdsPeer other) ending +
          stage.peerPermits other + (if semaphore = other then 1 else 0) =
        tally (fun _ task => task.holdsPeer other) state.ending +
          state.stage.peerPermits other) :
    PermitsConserved registry
      ⟨DrainLoop.giveBack state.loop semaphore, stage, ending⟩ := by
  have below : semaphore < state.loop.nextSemaphore := by
    by_contra above
    have unused := conserved.fresh semaphore (Nat.le_of_not_lt above)
    have taken := held semaphore
    rw [if_pos rfl] at taken
    simp only [DrainLoop.drawn] at unused
    omega
  refine ⟨?_, ?_, ?_, conserved.entered⟩
  · have before := conserved.global
    simp only [DrainLoop.tasksLeft, DrainLoop.giveBack] at before ⊢
    omega
  · intro other within
    have before := conserved.perPeer other within
    have taken := held other
    simp only [DrainLoop.drawn, DrainLoop.giveBack] at before ⊢
    by_cases same : semaphore = other
    · rw [← same] at before taken ⊢
      rw [if_pos rfl] at taken
      rw [Function.update_self]
      omega
    · rw [if_neg same] at taken
      rw [Function.update_of_ne (Ne.symm same)]
      omega
  · intro other above
    have unused := conserved.fresh other above
    have taken := held other
    simp only [DrainLoop.drawn, DrainLoop.giveBack] at unused ⊢
    omega

omit [PeerIdentity PeerId] in
/-- Global permits, tasks and ending tasks change, and their sums do not. -/
theorem PermitsConserved.retask
    (conserved : PermitsConserved registry state) {available : Nat}
    {metrics : Metrics}
    {tasks : Table Nat (ServeTask PeerId)} {nextTask : Nat}
    {stage : StreamStage PeerId} {ending : Table Nat EndingTask}
    (global : available + (len tasks + len ending) + stage.globalPermits =
      state.loop.global + state.tasksLeft + state.stage.globalPermits)
    (held : ∀ semaphore,
      tally (fun _ task => task.drawsFrom semaphore) tasks +
          tally (fun _ task => task.holdsPeer semaphore) ending +
            stage.peerPermits semaphore =
        state.drawn semaphore + state.stage.peerPermits semaphore) :
    PermitsConserved registry
      ⟨{ state.loop with
          metrics := metrics, global := available, tasks := tasks
          nextTask := nextTask },
        stage, ending⟩ := by
  refine ⟨global.trans conserved.global, ?_, ?_, conserved.entered⟩
  · intro semaphore below
    have before := conserved.perPeer semaphore below
    have same := held semaphore
    simp only [DrainLoop.drawn] at before same ⊢
    omega
  · intro semaphore above
    have unused := conserved.fresh semaphore above
    have same := held semaphore
    simp only [DrainLoop.drawn] at unused same ⊢
    omega

theorem PermitsConserved.step (conserved : PermitsConserved registry state)
    (numbered : EndingNumbered state)
    (step : DrainStep registry state event next actions) :
    PermitsConserved registry next := by
  cases step with
  | delegated waiting elsewhere taken =>
      have frame := (runGuardLoop_step taken).tunnelFrame elsewhere
      refine ⟨?_, ?_, ?_, ?_⟩
      · rw [DrainLoop.tasksLeft, frame.global, frame.tasks]
        exact conserved.global
      · rw [frame.nextSemaphore, frame.semaphores]
        intro semaphore below
        rw [DrainLoop.drawn, frame.tasks]
        exact conserved.perPeer semaphore below
      · rw [frame.nextSemaphore]
        intro semaphore above
        rw [DrainLoop.drawn, frame.tasks]
        exact conserved.fresh semaphore above
      · intro peer semaphore entry
        rw [frame.nextSemaphore]
        exact conserved.entered peer semaphore (frame.perPeer _ _ entry)
  | dequeued waiting running found =>
      apply conserved.restage <;> simp [waiting, StreamStage.globalPermits,
        StreamStage.peerPermits]
  | stopping hand | unauthenticated hand | overTotal hand | started hand =>
      apply conserved.restage <;> simp [hand, StreamStage.globalPermits,
        StreamStage.peerPermits]
  | overPeerCap hand reserved full =>
      have entered := (conserved.enter reserved).1
      apply entered.restage <;> simp [hand, StreamStage.globalPermits,
        StreamStage.peerPermits]
  | reserved hand reserved permitted =>
      rcases conserved.enter reserved with ⟨entered, below⟩
      apply entered.takePeer below permitted <;>
        simp [hand, StreamStage.globalPermits, StreamStage.peerPermits]
  | denied hand =>
      rename_i held
      cases held with
      | none =>
          apply conserved.restage <;> simp [hand, StreamStage.globalPermits,
            StreamStage.peerPermits]
      | some semaphore =>
          apply conserved.restage <;> simp [hand, StreamStage.globalPermits,
            StreamStage.peerPermits]
  | gaveBack hand =>
      apply conserved.giveBack <;> simp [hand, StreamStage.globalPermits,
        StreamStage.peerPermits]
  | permitted hand permitted =>
      apply conserved.retask
      · simp only [hand, DrainLoop.tasksLeft, StreamStage.globalPermits]
        omega
      · intro semaphore
        simp [hand, DrainLoop.drawn, StreamStage.peerPermits]
  | spawned hand =>
      have absent := numbered.fresh
      apply conserved.retask
      · rw [len_insert_new _ absent]
        simp only [hand, DrainLoop.tasksLeft, StreamStage.globalPermits]
        omega
      · intro semaphore
        rw [tally_insert_new _ _ absent]
        simp only [hand, DrainLoop.drawn, ServeTask.drawsFrom,
          StreamStage.peerPermits, decide_eq_true_eq]
        omega
  | continued found =>
      rename_i id task event stage done
      apply conserved.retask
      · rw [len_insert_over _ found]
        rfl
      · intro semaphore
        have kept : tally (fun _ task => ServeTask.drawsFrom semaphore task)
            (state.loop.tasks.insert id { task with stage := stage }) =
              tally (fun _ task => ServeTask.drawsFrom semaphore task)
                state.loop.tasks :=
          tally_insert_same _ _ found rfl
        rw [kept]
        rfl
  | returned found =>
      rename_i id task event outcome
      have apart := numbered.serving found
      apply conserved.retask
      · have fewer := len_erase_add state.loop.tasks found
        rw [len_insert_new _ apart, DrainLoop.tasksLeft]
        omega
      · intro semaphore
        have fewer := tally_erase_add
          (fun _ task => ServeTask.drawsFrom semaphore task) state.loop.tasks
          found
        rw [tally_insert_new _ _ apart, DrainLoop.drawn]
        simp only [EndingTask.holdsPeer, ServeTask.drawsFrom,
          decide_eq_true_eq] at fewer ⊢
        omega
  | recorded found =>
      rename_i id semaphore outcome
      apply conserved.retask
      · rw [len_insert_over _ found]
        rfl
      · intro other
        have kept : tally (fun _ task => EndingTask.holdsPeer other task)
            (state.ending.insert id ⟨semaphore, .recorded⟩) =
              tally (fun _ task => EndingTask.holdsPeer other task)
                state.ending :=
          tally_insert_same _ _ found rfl
        rw [kept]
        rfl
  | releasedPeer found =>
      rename_i id semaphore
      apply conserved.giveBack
      · rw [len_insert_over _ found]
      · intro other
        have fewer : tally (fun _ task => EndingTask.holdsPeer other task)
            (state.ending.insert id ⟨semaphore, .released⟩) +
              (if decide (semaphore = other) = true then 1 else 0) =
            tally (fun _ task => EndingTask.holdsPeer other task)
                state.ending + (if false = true then 1 else 0) :=
          tally_insert_over _ _ found
        simp only [decide_eq_true_eq, Bool.false_eq_true, if_false] at fewer
        omega
  | releasedGlobal found =>
      apply conserved.retask
      · have fewer := len_erase_add state.ending found
        rw [DrainLoop.tasksLeft]
        omega
      · intro semaphore
        have fewer := tally_erase_add
          (fun _ task => EndingTask.holdsPeer semaphore task) state.ending
          found
        rw [DrainLoop.drawn]
        simp only [EndingTask.holdsPeer, Bool.false_eq_true, if_false,
          Nat.add_zero] at fewer ⊢
        omega

end Permits

/-! ## Every dequeued stream is counted once -/

section Counters

/-- One for a stream that is dequeued, and nothing else. -/
def DrainEvent.dequeues : DrainEvent PeerId → Nat
  | .loop (.incomingStream _) => 1
  | _ => 0

/-- The counters, from those the loop was entered with, after `streams`
dequeued streams. -/
structure StreamsCounted (base : Metrics) (streams : Nat)
    (state : DrainLoop PeerId) : Prop where
  total : state.loop.metrics.counted + state.stage.uncounted =
    base.counted + streams
  active : state.loop.metrics.tunnelsActive.toNat =
    base.tunnelsActive.toNat + state.tasksActive + state.stage.active

private theorem toNat_add_one {counter : UInt64}
    (below : counter.toNat + 1 < 2 ^ 64) :
    (counter + 1).toNat = counter.toNat + 1 := by
  rw [UInt64.toNat_add]
  exact Nat.mod_eq_of_lt below

private theorem toNat_sub_one {counter : UInt64} (positive : 0 < counter.toNat) :
    (counter - 1).toNat = counter.toNat - 1 := by
  rw [UInt64.toNat_sub_of_le]
  · rfl
  · exact UInt64.le_iff_toNat_le.mpr positive

theorem Metrics.counted_recordTunnelDenied {metrics : Metrics}
    (below : metrics.counted + 1 < 2 ^ 64) :
    metrics.recordTunnelDenied.counted = metrics.counted + 1 := by
  unfold Metrics.counted at below ⊢
  have denied : (metrics.tunnelsDenied + 1).toNat =
      metrics.tunnelsDenied.toNat + 1 := toNat_add_one (by omega)
  simp only [recordTunnelDenied, denied]
  omega

theorem Metrics.toNat_recordTunnelStarted {metrics : Metrics}
    (below : metrics.counted + 1 < 2 ^ 64) :
    metrics.recordTunnelStarted.tunnelsActive.toNat =
      metrics.tunnelsActive.toNat + 1 := by
  unfold Metrics.counted at below
  exact toNat_add_one (by omega)

theorem Metrics.counted_recordTunnelStarted {metrics : Metrics}
    (below : metrics.counted + 1 < 2 ^ 64) :
    metrics.recordTunnelStarted.counted = metrics.counted + 1 := by
  have started := toNat_recordTunnelStarted below
  simp only [Metrics.counted, started]
  rfl

theorem Metrics.toNat_recordTunnelFinished {metrics : Metrics}
    (positive : 0 < metrics.tunnelsActive.toNat) (outcome : TunnelOutcome) :
    (metrics.recordTunnelFinished outcome).tunnelsActive.toNat =
      metrics.tunnelsActive.toNat - 1 := by
  cases outcome with
  | denied => exact toNat_sub_one positive
  | served => exact toNat_sub_one positive

/-- A stream that finishes moves from one counter to another. -/
theorem Metrics.counted_recordTunnelFinished {metrics : Metrics}
    (positive : 0 < metrics.tunnelsActive.toNat)
    (below : metrics.counted < 2 ^ 64) (outcome : TunnelOutcome) :
    (metrics.recordTunnelFinished outcome).counted = metrics.counted := by
  have active := toNat_recordTunnelFinished positive outcome
  unfold Metrics.counted at below ⊢
  rw [active]
  cases outcome with
  | denied =>
      have denied : (metrics.tunnelsDenied + 1).toNat =
          metrics.tunnelsDenied.toNat + 1 := toNat_add_one (by omega)
      simp only [recordTunnelFinished, denied]
      omega
  | served fromPeer toPeer =>
      have opened : (metrics.tunnelsOpened + 1).toNat =
          metrics.tunnelsOpened.toNat + 1 := toNat_add_one (by omega)
      simp only [recordTunnelFinished, opened]
      omega

variable [DecidableEq PeerId] [PeerIdentity PeerId]
    {registry : TunnelRegistry PeerId} {state next : DrainLoop PeerId}
    {event : DrainEvent PeerId} {actions : List (GuardAction PeerId)}
    {base : Metrics} {streams : Nat}

omit [PeerIdentity PeerId] [DecidableEq PeerId] in
theorem StreamsCounted.active_pos (counted : StreamsCounted base streams state)
    {id semaphore : Nat} {outcome : TunnelOutcome}
    (found : state.ending.lookup id = some ⟨semaphore, .returned outcome⟩) :
    0 < state.loop.metrics.tunnelsActive.toNat := by
  have fewer : tally (fun _ task => EndingTask.isActive task)
      (state.ending.erase id) + (if true = true then 1 else 0) =
        tally (fun _ task => EndingTask.isActive task) state.ending :=
    tally_erase_add _ _ found
  rw [counted.active, DrainLoop.tasksActive, ← fewer, if_pos rfl]
  omega

omit [PeerIdentity PeerId] [DecidableEq PeerId] in
private theorem dequeues_of_apart {event : GuardEvent PeerId}
    (apart : ¬ event.OfTunnel) : (DrainEvent.loop event).dequeues = 0 := by
  cases event with
  | incomingStream => exact absurd trivial apart
  | _ => rfl

omit [PeerIdentity PeerId] [DecidableEq PeerId] in
/-- A step that counts nothing. -/
theorem StreamsCounted.uncounted (counted : StreamsCounted base streams state)
    (metrics : next.loop.metrics = state.loop.metrics)
    (stage : next.stage.uncounted = state.stage.uncounted)
    (active : next.tasksActive + next.stage.active =
      state.tasksActive + state.stage.active) :
    StreamsCounted base streams next := by
  constructor
  · rw [metrics, stage]
    exact counted.total
  · rw [metrics, counted.active]
    omega

theorem StreamsCounted.step (counted : StreamsCounted base streams state)
    (numbered : EndingNumbered state)
    (bounded : base.counted + (streams + event.dequeues) < 2 ^ 64)
    (step : DrainStep registry state event next actions) :
    StreamsCounted base (streams + event.dequeues) next := by
  have before := counted
  rcases counted with ⟨total, active⟩
  cases step with
  | delegated waiting elsewhere taken =>
      have frame := (runGuardLoop_step taken).tunnelFrame elsewhere
      rw [dequeues_of_apart elsewhere]
      constructor
      · rw [Metrics.counted, frame.opened, frame.denied, frame.active]
        exact total
      · rw [frame.active, DrainLoop.tasksActive, frame.tasks]
        exact active
  | dequeued waiting running found =>
      simp only [waiting, StreamStage.uncounted] at total
      simp only [waiting, StreamStage.active] at active
      refine ⟨?_, active⟩
      simp only [StreamStage.uncounted, DrainEvent.dequeues]
      omega
  | stopping hand | unauthenticated hand | overTotal hand | permitted hand
  | gaveBack hand =>
      apply before.uncounted
      · rfl
      · simp [hand, StreamStage.uncounted]
      · simp [hand, StreamStage.active, DrainLoop.tasksActive,
          DrainLoop.giveBack, disconnectPeerId]
  | overPeerCap hand reserved full | reserved hand reserved permitted =>
      apply before.uncounted
      · rcases peerSemaphore_cases reserved with ⟨-, rfl⟩ | ⟨-, -, rfl⟩ <;> rfl
      · simp [hand, StreamStage.uncounted]
      · simp [hand, StreamStage.active, DrainLoop.tasksActive,
          peerSemaphore_tasks reserved]
  | denied hand =>
      rename_i held
      simp only [DrainEvent.dequeues] at bounded ⊢
      simp only [hand, StreamStage.uncounted] at total
      simp only [hand, StreamStage.active] at active
      have below : state.loop.metrics.counted + 1 < 2 ^ 64 := by omega
      have nothing : ((held.map StreamStage.returning).getD
          (.waiting : StreamStage PeerId)).uncounted = 0 ∧
            ((held.map StreamStage.returning).getD
              (.waiting : StreamStage PeerId)).active = 0 := by
        cases held <;> exact ⟨rfl, rfl⟩
      constructor
      · rw [nothing.1, denyStream, Metrics.counted_recordTunnelDenied below]
        omega
      · rw [nothing.2]
        exact active
  | started hand =>
      simp only [DrainEvent.dequeues] at bounded ⊢
      simp only [hand, StreamStage.uncounted] at total
      simp only [hand, StreamStage.active] at active
      have below : state.loop.metrics.counted + 1 < 2 ^ 64 := by omega
      constructor
      · rw [Metrics.counted_recordTunnelStarted below]
        simp only [StreamStage.uncounted]
        omega
      · rw [Metrics.toNat_recordTunnelStarted below, active]
        simp only [StreamStage.active]
        rfl
  | spawned hand =>
      have absent := numbered.fresh
      apply before.uncounted
      · rfl
      · simp [hand, StreamStage.uncounted]
      · simp only [hand, StreamStage.active, DrainLoop.tasksActive]
        rw [len_insert_new _ absent]
        omega
  | continued found =>
      apply before.uncounted
      · rfl
      · rfl
      · simp only [DrainLoop.tasksActive]
        rw [len_insert_over _ found]
  | returned found =>
      rename_i id task event outcome
      have apart := numbered.serving found
      have fewer := len_erase_add state.loop.tasks found
      apply before.uncounted
      · rfl
      · rfl
      · simp only [DrainLoop.tasksActive]
        rw [tally_insert_new _ _ apart]
        simp only [EndingTask.isActive, if_true]
        omega
  | recorded found =>
      rename_i id semaphore outcome
      have positive := before.active_pos found
      have below : state.loop.metrics.counted < 2 ^ 64 := by
        simp only [DrainEvent.dequeues] at bounded
        omega
      have fewer : tally (fun _ task => EndingTask.isActive task)
          (state.ending.insert id ⟨semaphore, .recorded⟩) +
            (if true = true then 1 else 0) =
          tally (fun _ task => EndingTask.isActive task) state.ending +
            (if false = true then 1 else 0) :=
        tally_insert_over _ _ found
      simp only [Bool.false_eq_true, if_false, if_true] at fewer
      constructor
      · rw [Metrics.counted_recordTunnelFinished positive below]
        exact total
      · rw [Metrics.toNat_recordTunnelFinished positive, active]
        simp only [DrainLoop.tasksActive]
        omega
  | releasedPeer found =>
      rename_i id semaphore
      have kept : tally (fun _ task => EndingTask.isActive task)
          (state.ending.insert id ⟨semaphore, .released⟩) =
            tally (fun _ task => EndingTask.isActive task) state.ending :=
        tally_insert_same _ _ found rfl
      apply before.uncounted
      · rfl
      · rfl
      · simp only [DrainLoop.tasksActive]
        rw [kept]
        rfl
  | releasedGlobal found =>
      rename_i id semaphore
      have fewer : tally (fun _ task => EndingTask.isActive task)
          (state.ending.erase id) + (if false = true then 1 else 0) =
            tally (fun _ task => EndingTask.isActive task) state.ending :=
        tally_erase_add _ _ found
      simp only [Bool.false_eq_true, if_false, Nat.add_zero] at fewer
      apply before.uncounted
      · rfl
      · rfl
      · simp only [DrainLoop.tasksActive]
        rw [fewer]

end Counters

/-! ## Runs -/

section Runs

/-- The streams dequeued in a run. -/
def dequeued (trace : List (DrainTransition PeerId)) : Nat :=
  ((trace.map Transition.event).map DrainEvent.dequeues).sum

theorem dequeued_append (earlier later : List (DrainTransition PeerId)) :
    dequeued (earlier ++ later) = dequeued earlier + dequeued later := by
  simp [dequeued]

/-- The transition is a shutdown command. -/
def RequestsStop (transition : DrainTransition PeerId) : Prop :=
  ∃ event, transition.event = .loop event ∧ RequestsShutdown event

/-- The transition is a shutdown command with this deadline. -/
def SetsDeadline (deadline : Nat) (transition : DrainTransition PeerId) :
    Prop :=
  ∃ gracePeriod now,
    transition.event = .loop (.control (.shutdown gracePeriod) now) ∧
      deadline = now + gracePeriod

variable [DecidableEq PeerId] [PeerIdentity PeerId]
    {registry : TunnelRegistry PeerId}
    {authenticator : GuardAuthenticator PeerId} {control : Bool}
    {metrics : Metrics} {connections : List (Connection PeerId)}
    {trace : List (DrainTransition PeerId)} {finish : DrainLoop PeerId}

/-- The numbering and the permits, as one invariant. -/
structure DrainConserved (registry : TunnelRegistry PeerId)
    (state : DrainLoop PeerId) : Prop where
  numbered : EndingNumbered state
  permits : PermitsConserved registry state

omit [PeerIdentity PeerId] in
private theorem conserved_start :
    DrainConserved registry (DrainLoop.start
      (GuardLoop.start authenticator registry control metrics
        connections)) := by
  refine ⟨⟨?_, ?_, ?_⟩, rfl, ?_, ?_, ?_⟩
  · intro id member
    exact absurd member (AList.notMem_empty id)
  · intro id member
    exact absurd member (AList.notMem_empty id)
  · intro id member
    exact absurd member (AList.notMem_empty id)
  · intro semaphore below
    exact absurd below (Nat.not_lt_zero _)
  · intro semaphore above
    exact ⟨rfl, rfl⟩
  · intro peer semaphore entry
    cases entry

theorem conserved_of_run
    (run : Run (runDrainLoop registry)
      (DrainLoop.start
        (GuardLoop.start authenticator registry control metrics connections))
      trace finish) :
    DrainConserved registry finish := by
  refine run.invariant conserved_start ?_
  intro state event next actions conserved taken
  have step := runDrainLoop_step taken
  exact ⟨conserved.numbered.step step,
    conserved.permits.step conserved.numbered step⟩

theorem counted_of_run
    (run : Run (runDrainLoop registry)
      (DrainLoop.start
        (GuardLoop.start authenticator registry control metrics connections))
      trace finish)
    (bounded : metrics.counted + dequeued trace < 2 ^ 64) :
    StreamsCounted metrics (dequeued trace) finish := by
  induction run with
  | start => exact ⟨rfl, rfl⟩
  | snoc prior taken induction =>
      rename_i earlier state event actions next
      have added : dequeued (earlier ++ [⟨state, event, actions, next⟩]) =
          dequeued earlier + event.dequeues := by
        rw [dequeued_append]
        rfl
      rw [added] at bounded ⊢
      exact (induction (by omega)).step (conserved_of_run prior).numbered bounded
        (runDrainLoop_step taken)

section Step

variable {state next : DrainLoop PeerId} {event : DrainEvent PeerId}
    {actions : List (GuardAction PeerId)}

theorem DrainStep.deadline
    (step : DrainStep registry state event next actions) {deadline : Nat}
    (requested : next.loop.shutdownDeadline = some deadline) :
    SetsDeadline deadline ⟨state, event, actions, next⟩ ∨
      state.loop.shutdownDeadline = some deadline ∧
        ¬ RequestsStop ⟨state, event, actions, next⟩ := by
  cases step with
  | delegated waiting apart taken =>
      rcases (runGuardLoop_step taken).deadline requested with
        ⟨gracePeriod, now, rfl, same⟩ | ⟨before, quiet⟩
      · exact Or.inl ⟨gracePeriod, now, rfl, same⟩
      · refine Or.inr ⟨before, ?_⟩
        rintro ⟨served, same, requests⟩
        cases same
        exact quiet requests
  | overPeerCap hand reserved full | reserved hand reserved permitted =>
      rcases peerSemaphore_cases reserved with ⟨-, rfl⟩ | ⟨-, -, rfl⟩ <;>
        exact Or.inr ⟨requested, by simp [RequestsStop]⟩
  | _ => exact Or.inr ⟨requested, by simp [RequestsStop, RequestsShutdown]⟩

theorem DrainStep.recording {id : Nat}
    (step : DrainStep registry state (.record id) next actions) :
    ∃ semaphore outcome,
      state.ending.lookup id = some ⟨semaphore, .returned outcome⟩ := by
  cases step with
  | recorded found => exact ⟨_, _, found⟩

theorem runDrainLoop_stops
    (taken : runDrainLoop registry state event = some (next, actions))
    (running : state.loop.running = true)
    (stopped : next.loop.running = false) :
    ∃ now deadline, event = .loop (.drainTick now) ∧
      state.stage = .waiting ∧ state.loop.shutdownDeadline = some deadline ∧
        (state.loop.global = registry.maxStreamsTotal ∨ deadline ≤ now) := by
  have unchanged : next.loop.running ≠ state.loop.running := by
    rw [running, stopped]
    exact Bool.false_ne_true
  cases runDrainLoop_step taken with
  | delegated waiting apart served =>
      rcases runGuardLoop_stops served apart running stopped with
        ⟨now, deadline, rfl, requested, reason⟩
      exact ⟨now, deadline, rfl, waiting, requested, reason⟩
  | overPeerCap hand reserved full | reserved hand reserved permitted =>
      rcases peerSemaphore_cases reserved with ⟨-, rfl⟩ | ⟨-, -, rfl⟩ <;>
        exact absurd rfl unchanged
  | _ => exact absurd rfl unchanged

end Step

theorem deadline_since
    (run : Run (runDrainLoop registry)
      (DrainLoop.start
        (GuardLoop.start authenticator registry control metrics connections))
      trace finish)
    {deadline : Nat}
    (requested : finish.loop.shutdownDeadline = some deadline) :
    Since (SetsDeadline deadline) RequestsStop trace := by
  induction run with
  | start => cases requested
  | snoc prior taken induction =>
      rcases (runDrainLoop_step taken).deadline requested with
        now | ⟨before, quiet⟩
      · exact Since.now now
      · exact (induction before).kept quiet

/-- The transition on which `run_guard_loop` returns. -/
def Returns (transition : DrainTransition PeerId) : Prop :=
  transition.before.loop.running = true ∧
    transition.after.loop.running = false

/--
In every state reached by small steps, available and held permits add up to the
caps, a waiting loop holds no permit for a refused stream, the active counter
is positive whenever a task decrements it, and every dequeued stream is counted
once.  The loop returns on a tick after a shutdown command, when no task is
left or the deadline of the latest command has passed.
-/
theorem permits_and_counters_conserved
    (run : Run (runDrainLoop registry)
      (DrainLoop.start
        (GuardLoop.start authenticator registry control metrics connections))
      trace finish)
    (bounded : metrics.counted + dequeued trace < 2 ^ 64) :
    finish.loop.global + finish.tasksLeft + finish.stage.globalPermits =
        registry.maxStreamsTotal ∧
      finish.tasksLeft ≤ registry.maxStreamsTotal ∧
      (finish.stage = .waiting →
        finish.loop.global + finish.tasksLeft = registry.maxStreamsTotal ∧
          ∀ semaphore < finish.loop.nextSemaphore,
            finish.loop.semaphores semaphore + finish.drawn semaphore =
              registry.maxStreamsPerPeer) ∧
      (∀ transition ∈ trace, ∀ id, transition.event = .record id →
        0 < transition.before.loop.metrics.tunnelsActive.toNat) ∧
      finish.loop.metrics.counted + finish.stage.uncounted =
        metrics.counted + dequeued trace ∧
      ∀ earlier last later, trace = earlier ++ last :: later → Returns last →
        ∃ now deadline, last.event = .loop (.drainTick now) ∧
          Since (SetsDeadline deadline) RequestsStop earlier ∧
            (last.before.tasksLeft = 0 ∧
                last.before.loop.metrics.tunnelsActive =
                  metrics.tunnelsActive ∨
              deadline ≤ now) := by
  have conserved := (conserved_of_run run).permits
  have within := conserved.global
  refine ⟨within, by omega, ?_, ?_, (counted_of_run run bounded).total, ?_⟩
  · intro waiting
    rw [waiting] at within
    refine ⟨within, ?_⟩
    intro semaphore below
    have balance := conserved.perPeer semaphore below
    rw [waiting] at balance
    exact balance
  · intro transition member id recorded
    rcases List.append_of_mem member with ⟨earlier, later, rfl⟩
    rcases run.transition with ⟨prior, taken, -⟩
    rw [recorded] at taken
    rw [dequeued_append] at bounded
    rcases (runDrainLoop_step taken).recording with
      ⟨semaphore, outcome, found⟩
    exact (counted_of_run prior (by omega)).active_pos found
  · rintro earlier last later rfl ⟨running, stopped⟩
    rcases run.transition with ⟨prior, taken, -⟩
    rcases runDrainLoop_stops taken running stopped with
      ⟨now, deadline, tick, waiting, requested, reason⟩
    refine ⟨now, deadline, tick, deadline_since prior requested, ?_⟩
    rcases reason with full | passed
    · left
      rw [dequeued_append] at bounded
      have active := (counted_of_run prior (by omega)).active
      have before := (conserved_of_run prior).permits.global
      rw [waiting] at active before
      have nobody : last.before.tasksLeft = 0 := by
        simp only [StreamStage.globalPermits] at before
        omega
      refine ⟨nobody, UInt64.toNat_inj.mp (active.trans ?_)⟩
      have fewer := tally_le_len (fun _ task => EndingTask.isActive task)
        last.before.ending
      simp only [DrainLoop.tasksLeft] at nobody
      simp only [DrainLoop.tasksActive, StreamStage.active]
      omega
    · exact Or.inr passed

end Runs

section SmallRun

open SmallGuard

/-- A tunnel is served, its task ends in three steps, and the Guard drains. -/
def drain : List (DrainEvent BytePeer) :=
  handshake.map .loop ++
    [.loop (.incomingStream 0), .advance, .advance, .advance, .advance,
      .loop (.control (.shutdown 30) 100), .loop (.task 0 .headerUnreadable),
      .record 0, .releasePeer 0, .releaseGlobal 0, .loop (.drainTick 110)]

theorem permits_and_counters_conserved_small :
    ∃ earlier last finish,
      Run (runDrainLoop registry) (DrainLoop.start start) (earlier ++ [last])
        finish ∧
      (earlier ++ [last]).map Transition.event = drain ∧
      finish.loop.metrics.counted + finish.stage.uncounted = 1 ∧
      ∃ now deadline, last.event = .loop (.drainTick now) ∧
        Since (SetsDeadline deadline) RequestsStop earlier ∧
          (last.before.tasksLeft = 0 ∧
              last.before.loop.metrics.tunnelsActive = 0 ∨
            deadline ≤ now) := by
  have computed : (execute (runDrainLoop registry) (DrainLoop.start start)
      drain).any (fun result =>
        result.1.getLast?.any fun last =>
          last.before.loop.running && !last.after.loop.running) = true := by
    decide +kernel
  rcases exists_run_of_any computed with ⟨trace, finish, run, events, observed⟩
  rcases (Option.any_eq_true _ _).mp observed with ⟨last, ends, returned⟩
  rcases List.getLast?_eq_some_iff.mp ends with ⟨earlier, rfl⟩
  have streams : dequeued (earlier ++ [last]) = 1 := by
    rw [dequeued, events]
    rfl
  have bounded : Metrics.counted {} + dequeued (earlier ++ [last]) < 2 ^ 64 := by
    rw [streams]
    decide
  rcases permits_and_counters_conserved run bounded with
    ⟨-, -, -, -, total, returns⟩
  rw [streams] at total
  have returning : Returns last := by simpa [Returns] using returned
  exact ⟨earlier, last, finish, run, events, total,
    returns earlier last [] rfl returning⟩

end SmallRun

end NuxAuth.Core
