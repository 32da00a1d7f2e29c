import NuxAuth.Core.GuardTasks
import NuxAuth.Gateway.GuardProcess

/-!
# The control channel of a Guard process

Two tasks and the loop meet in one bounded channel.  Every step of the process
is one operation on it, a task stands in it exactly while it sends, and it is
closed exactly when the loop has returned.  Under a fair scheduler a task that
sends gets its place, unless the loop returns first.
-/

namespace NuxAuth.Gateway

open NuxAuth.Core NuxAuth.Core.GuardLoop
open NuxAuth.Lib.BoundedChannel NuxAuth.Lib.FairBehavior
open NuxAuth.Lib.RecordedRun

variable {PeerId : Type} [DecidableEq PeerId]

/-! ## The loop and its receiver -/

section Loop

variable [PeerIdentity PeerId] {registry : TunnelRegistry PeerId}
  {loop next : GuardLoop PeerId} {event : GuardEvent PeerId}
  {actions : List (GuardAction PeerId)}

/-- Commands are received by a running loop, and do not end it. -/
theorem running_of_command {command : GuardControl PeerId} {now : Nat}
    (taken : runGuardLoop registry loop (.control command now) =
      some (next, actions)) :
    loop.running = true ∧ next.running = true := by
  have running : loop.running = true :=
    (Option.ite_none_right_eq_some.mp taken).1
  refine ⟨running, ?_⟩
  by_contra stopped
  rcases runGuardLoop_stops taken id running
      ((Bool.not_eq_true _).mp stopped) with ⟨_, _, same, -⟩
  cases same

/-- A loop that has returned does not run again. -/
theorem halted_of_halted (halted : loop.running = false)
    (taken : runGuardLoop registry loop event = some (next, actions)) :
    next.running = false := by
  cases event with
  | task id resumed =>
      cases runGuardLoop_step taken with
      | idle control running quiet => simp at quiet
      | taskContinued found resumes => exact halted
      | taskEnded found resumes => exact halted
  | _ =>
      rcases Option.ite_none_right_eq_some.mp taken with ⟨running, -⟩
      rw [halted] at running
      cases running

/-- The whitelist after a reload is the new one. -/
theorem whitelist_of_reload {list : Whitelist PeerId} {now : Nat}
    (taken : runGuardLoop registry loop (.control (.reloadWhitelist list) now) =
      some (next, actions)) :
    next.authenticator.whitelist = list := by
  cases runGuardLoop_step taken with
  | idle control running quiet => simp at quiet
  | reloaded newWhitelist now =>
      apply Whitelist.ext
      rw [(revokePeers_revocation _ _).whitelist]
      refine List.filter_eq_self.mpr fun entry member => ?_
      have listed := (list.roles_eq_some_iff entry.1 entry.2).mpr member
      rw [decide_eq_true_eq, mem_toRevoke_iff]
      rintro ⟨-, unlisted⟩
      rw [listed] at unlisted
      cases unlisted

/-- A transition that carries out no command. -/
structure Unordered (before after : GuardLoop PeerId) : Prop where
  whitelist : after.authenticator.whitelist = before.authenticator.whitelist
  deadline : after.shutdownDeadline = before.shutdownDeadline

theorem unordered_of_other
    (other : ∀ command now, event ≠ .control command now)
    (taken : runGuardLoop registry loop event = some (next, actions)) :
    Unordered loop next := by
  have step := runGuardLoop_step taken
  constructor
  · refine step.whitelist_kept fun command => ?_
    cases event with
    | control ordered now => exact other ordered now rfl
    | _ => exact command
  · cases step with
    | streamOverCap found serving authorized reserved full =>
        rcases peerSemaphore_cases reserved with ⟨-, rfl⟩ | ⟨-, -, rfl⟩
        · rfl
        · rfl
    | streamSpawned found serving authorized reserved permitted =>
        rcases peerSemaphore_cases reserved with ⟨-, rfl⟩ | ⟨-, -, rfl⟩
        · rfl
        · rfl
    | revoked | allowed | reloaded | stopping => exact absurd rfl (other _ _)
    | _ => rfl

/-- The shutdown sets the deadline and leaves the whitelist. -/
theorem orders_of_shutdown {gracePeriod now : Nat}
    (taken : runGuardLoop registry loop (.control (.shutdown gracePeriod) now) =
      some (next, actions)) :
    next.authenticator.whitelist = loop.authenticator.whitelist ∧
      next.shutdownDeadline = some (now + gracePeriod) := by
  cases runGuardLoop_step taken with
  | stopping gracePeriod now => exact ⟨rfl, rfl⟩
  | idle control running quiet => simp at quiet

/-- A reload leaves the deadline. -/
theorem deadline_of_reload {list : Whitelist PeerId} {now : Nat}
    (taken : runGuardLoop registry loop (.control (.reloadWhitelist list) now) =
      some (next, actions)) :
    next.shutdownDeadline = loop.shutdownDeadline := by
  cases runGuardLoop_step taken with
  | reloaded newWhitelist now =>
      exact (revokePeers_revocation _ _).shutdownDeadline
  | idle control running quiet => simp at quiet

end Loop

/-! ## Every step is one operation on the channel -/

namespace GuardProcess

/-- The task of the signals stands at its send. -/
@[simp]
def reloadSends (process : GuardProcess PeerId) : Nat :=
  match process.reload with
  | .sending _ => 1
  | _ => 0

/-- The places in the channel that the stop task stands for. -/
@[simp]
def stopSends (process : GuardProcess PeerId) : Nat :=
  match process.stop with
  | .sending => 1
  | _ => 0

end GuardProcess

/-- The operation of an event that takes a message or puts one in. -/
def MovesMessage : HostEvent PeerId →
    ChannelEvent ControlSender (GuardControl PeerId) → Prop
  | .receive _, tick => tick = .pop
  | .pushReload, tick => ∃ message, tick = .push .reload message
  | .pushStop, tick => ∃ message, tick = .push .stop message
  | _, _ => True

/-- The operation on the channel that a step of the process is. -/
structure ChannelTick (event : HostEvent PeerId)
    (before after : GuardProcess PeerId)
    (tick : ChannelEvent ControlSender (GuardControl PeerId)) : Prop where
  moves : ∃ messages, stepChannel controlCapacity before.channel tick =
    some (after.channel, messages)
  reload : before.reloadSends + tick.enters .reload =
    after.reloadSends + tick.leaves .reload
  stop : before.stopSends + tick.enters .stop =
    after.stopSends + tick.leaves .stop
  message : MovesMessage event tick

section Steps

variable {Multiaddr Namespace : Type} [PeerIdText PeerId]
  [PeerIdentity PeerId] [MultiaddrText Multiaddr] [NamespaceText Namespace]
  {toml : TomlEdit} {registry : TunnelRegistry PeerId}
  {process next : GuardProcess PeerId} {event : HostEvent PeerId}
  {actions : List (HostAction PeerId)}

omit [DecidableEq PeerId] [PeerIdText PeerId] [PeerIdentity PeerId] in
/-- A step that leaves the channel and the senders alone. -/
theorem channelTick_idle (channel : next.channel = process.channel)
    (reload : process.reloadSends = next.reloadSends)
    (stop : process.stopSends = next.stopSends)
    (message : MovesMessage event .idle) :
    ∃ tick, ChannelTick event process next tick :=
  ⟨.idle, ⟨[], by rw [channel]; rfl⟩, by simpa using reload,
    by simpa using stop, message⟩

omit [DecidableEq PeerId] [PeerIdText PeerId] [PeerIdentity PeerId] in
/-- The end of a reading is a claim, or nothing to the channel. -/
theorem channelTick_conclude (outcome : ReloadAction PeerId)
    {file count : Nat} {got : List UInt8}
    (reading : process.reload = .reading file got) :
    ∃ tick, ChannelTick (.readFile count) process
      (process.concludeReload outcome) tick := by
  cases outcome with
  | refused error =>
      exact channelTick_idle rfl (by simp [reading,
        GuardProcess.concludeReload]) rfl trivial
  | reloadWhitelist list =>
      rw [GuardProcess.concludeReload, GuardProcess.claimReload]
      split
      · exact channelTick_idle rfl (by simp [reading]) rfl trivial
      · next isOpen =>
          refine ⟨.claim .reload, ⟨[], if_neg isOpen⟩, ?_, ?_, trivial⟩
          · simp [reading]
          · simp

omit [DecidableEq PeerId] [PeerIdText PeerId] [PeerIdentity PeerId] in
theorem channelTick_claimStop (signalled : process.stop = .signalled) :
    ∃ tick, ChannelTick .claimStop process process.claimStop tick := by
  rw [GuardProcess.claimStop]
  split
  · exact channelTick_idle rfl rfl (by simp [signalled]) trivial
  · next isOpen =>
      refine ⟨.claim .stop, ⟨[], if_neg isOpen⟩, ?_, ?_, trivial⟩
      · simp
      · simp [signalled]

theorem HostStep.channel
    (step : HostStep Multiaddr Namespace toml registry process event next
      actions) :
    ∃ tick, ChannelTick event process next tick := by
  cases step with
  | written | replaced | removed | hungUp | stopAgain =>
      exact channelTick_idle rfl rfl rfl trivial
  | stopNoted waiting =>
      exact channelTick_idle rfl rfl (by simp [waiting]) trivial
  | received waiting pending =>
      exact channelTick_idle rfl (by simp [waiting]) rfl trivial
  | opened opening path | missing opening path =>
      exact channelTick_idle rfl (by simp [opening]) rfl trivial
  | unreadable loading =>
      rcases loading with opening | ⟨file, got, reading⟩
      · exact channelTick_idle rfl (by simp [opening]) rfl trivial
      · exact channelTick_idle rfl (by simp [reading]) rfl trivial
  | readOn count reading left more =>
      exact channelTick_idle rfl (by simp [reading]) rfl trivial
  | readEnd count reading ended => exact channelTick_conclude _ reading
  | pushedReload sending granted =>
      rename_i list
      refine ⟨.push .reload (.reloadWhitelist list), ⟨[], ?_⟩, ?_, rfl,
        ⟨_, rfl⟩⟩
      · simp [stepChannel, Channel.push, granted]
      · simp [sending]
  | refusedReload sending closed waits =>
      refine ⟨.refuse .reload, ⟨[], ?_⟩, ?_, rfl, trivial⟩
      · simp [stepChannel, closed, waits]
      · simp [sending]
  | claimedStop signalled => exact channelTick_claimStop signalled
  | pushedStop sending granted =>
      refine ⟨.push .stop (.shutdown defaultShutdownGracePeriod), ⟨[], ?_⟩, rfl,
        ?_, ⟨_, rfl⟩⟩
      · simp [stepChannel, Channel.push, granted]
      · simp [sending]
  | refusedStop sending closed waits =>
      refine ⟨.refuse .stop, ⟨[], ?_⟩, rfl, ?_, trivial⟩
      · simp [stepChannel, closed, waits]
      · simp [sending]
  | commanded now isOpen popped taken =>
      rename_i command channel loop logged
      have running := (running_of_command taken).2
      refine ⟨.pop, ⟨[command], ?_⟩, rfl, rfl, rfl⟩
      simp [stepChannel, isOpen, popped, GuardProcess.withLoop, running]
  | looped other last taken =>
      rename_i event loop logged
      cases running : loop.running with
      | true =>
          refine ⟨.idle, ⟨[], ?_⟩, rfl, rfl, trivial⟩
          simp [stepChannel, GuardProcess.withLoop, running]
      | false =>
          refine ⟨.close, ⟨[], ?_⟩, rfl, rfl, trivial⟩
          simp [stepChannel, GuardProcess.withLoop, running]

/-! ## Where the tasks stand -/

/-- What the loop is sent. -/
def Requested : GuardControl PeerId → Prop
  | .reloadWhitelist _ => True
  | .shutdown gracePeriod => gracePeriod = defaultShutdownGracePeriod
  | _ => False

/-- The channel and its senders agree, and nothing else was sent. -/
structure Wired (process : GuardProcess PeerId) : Prop where
  sound : Sound controlCapacity process.channel
  closed : process.channel.closed = !process.loop.running
  /-- a task stands in the channel while it sends, and only then -/
  reload : process.channel.claims .reload = process.reloadSends
  stop : process.channel.claims .stop = process.stopSends
  messages : ∀ message ∈ process.channel.queue, Requested message

omit [DecidableEq PeerId] [PeerIdText PeerId] [PeerIdentity PeerId] in
theorem wired_start (files : GuardFiles) (listens interrupts : Bool)
    {loop : GuardLoop PeerId} (running : loop.running = true) :
    Wired (GuardProcess.start files listens interrupts loop) where
  sound := Sound.empty controlCapacity
  closed := by rw [GuardProcess.start, running]; rfl
  reload := by cases listens <;> rfl
  stop := by cases interrupts <;> rfl
  messages _ member := by cases member

/-- What a step does to the messages under way. -/
inductive QueueStep (registry : TunnelRegistry PeerId)
    (process : GuardProcess PeerId) :
    HostEvent PeerId → GuardProcess PeerId → Prop where
  | kept {event : HostEvent PeerId} {next : GuardProcess PeerId}
      (other : ∀ now, event ≠ .receive now)
      (queue : next.channel.queue = process.channel.queue)
      (orders : Unordered process.loop next.loop) :
      QueueStep registry process event next
  | reloads {next : GuardProcess PeerId} {list : Whitelist PeerId}
      (sending : process.reload = .sending list)
      (sent : next.reload = .waiting)
      (queue : next.channel.queue =
        process.channel.queue ++ [.reloadWhitelist list])
      (orders : Unordered process.loop next.loop) :
      QueueStep registry process .pushReload next
  | stops {next : GuardProcess PeerId}
      (sending : process.stop = .sending)
      (queue : next.channel.queue =
        process.channel.queue ++ [.shutdown defaultShutdownGracePeriod])
      (orders : Unordered process.loop next.loop) :
      QueueStep registry process .pushStop next
  | received {now : Nat} {command : GuardControl PeerId}
      {next : GuardProcess PeerId} {actions : List (GuardAction PeerId)}
      (queue : process.channel.queue = command :: next.channel.queue)
      (taken : runGuardLoop registry process.loop (.control command now) =
        some (next.loop, actions)) :
      QueueStep registry process (.receive now) next

omit [DecidableEq PeerId] [PeerIdText PeerId] [PeerIdentity PeerId] in
theorem pop_eq_some
    {channel after : Channel ControlSender (GuardControl PeerId)}
    {command : GuardControl PeerId}
    (popped : channel.pop = some (command, after)) :
    channel.queue = command :: after.queue ∧
      after.closed = channel.closed := by
  rcases channel with ⟨queue, granted, waiting, closed⟩
  cases queue with
  | nil => cases popped
  | cons first rest =>
      cases waiting with
      | nil =>
          cases popped
          exact ⟨rfl, rfl⟩
      | cons sender line =>
          cases popped
          exact ⟨rfl, rfl⟩

omit [DecidableEq PeerId] [PeerIdText PeerId] [PeerIdentity PeerId] in
theorem queue_claim
    (channel : Channel ControlSender (GuardControl PeerId))
    (sender : ControlSender) :
    (channel.claim controlCapacity sender).queue = channel.queue := by
  rw [Channel.claim]
  split
  · rfl
  · rfl

omit [DecidableEq PeerId] [PeerIdText PeerId] [PeerIdentity PeerId] in
theorem concludeReload_queue (process : GuardProcess PeerId)
    (outcome : ReloadAction PeerId) :
    (process.concludeReload outcome).channel.queue =
        process.channel.queue ∧
      (process.concludeReload outcome).loop = process.loop := by
  cases outcome with
  | refused error => exact ⟨rfl, rfl⟩
  | reloadWhitelist list =>
      rw [GuardProcess.concludeReload, GuardProcess.claimReload]
      split
      · exact ⟨rfl, rfl⟩
      · exact ⟨queue_claim _ _, rfl⟩

omit [DecidableEq PeerId] [PeerIdText PeerId] [PeerIdentity PeerId] in
theorem claimStop_queue (process : GuardProcess PeerId) :
    process.claimStop.channel.queue = process.channel.queue ∧
      process.claimStop.loop = process.loop := by
  rw [GuardProcess.claimStop]
  split
  · exact ⟨rfl, rfl⟩
  · exact ⟨queue_claim _ _, rfl⟩

omit [DecidableEq PeerId] [PeerIdText PeerId] [PeerIdentity PeerId] in
theorem Unordered.ofEq {before after : GuardLoop PeerId}
    (same : after = before) : Unordered before after := by
  rw [same]
  exact ⟨rfl, rfl⟩

theorem HostStep.queue
    (step : HostStep Multiaddr Namespace toml registry process event next
      actions) :
    QueueStep registry process event next := by
  cases step with
  | readEnd count reading ended =>
      have same := concludeReload_queue process
      exact .kept (by simp) (same _).1 (.ofEq (same _).2)
  | pushedReload sending granted =>
      exact .reloads sending rfl rfl (.ofEq rfl)
  | claimedStop signalled =>
      have same := claimStop_queue process
      exact .kept (by simp) same.1 (.ofEq same.2)
  | pushedStop sending granted => exact .stops sending rfl (.ofEq rfl)
  | commanded now isOpen popped taken =>
      exact .received (pop_eq_some popped).1 taken
  | looped other last taken =>
      exact .kept (by simp) rfl (unordered_of_other other taken)
  | _ => exact .kept (by simp) rfl (.ofEq rfl)

/-- A loop runs as long as its channel is open. -/
theorem Wired.closed_step (wired : Wired process)
    (step : HostStep Multiaddr Namespace toml registry process event next
      actions) :
    next.channel.closed = !next.loop.running := by
  have closed := wired.closed
  cases step with
  | readEnd count reading ended =>
      generalize Gateway.reload PeerId Multiaddr Namespace toml _ = outcome
      cases outcome with
      | refused error => exact closed
      | reloadWhitelist list =>
          rw [GuardProcess.concludeReload, GuardProcess.claimReload]
          split
          · exact closed
          · rw [← closed, Channel.claim]
            split <;> rfl
  | claimedStop signalled =>
      rw [GuardProcess.claimStop]
      split
      · exact closed
      · rw [← closed, Channel.claim]
        split <;> rfl
  | commanded now isOpen popped taken =>
      simp [GuardProcess.withLoop, (pop_eq_some popped).2, isOpen]
  | looped other last taken =>
      cases running : process.loop.running with
      | true => simp [GuardProcess.withLoop, closed, running]
      | false =>
          have halted := halted_of_halted running taken
          simp [GuardProcess.withLoop, closed, running, halted]
  | _ => exact closed

theorem Wired.step (wired : Wired process)
    (step : HostStep Multiaddr Namespace toml registry process event next
      actions) :
    Wired next := by
  rcases step.channel with ⟨tick, moved⟩
  rcases moved.moves with ⟨messages, moves⟩
  have channelStep := stepChannel_step moves
  have reloads := moved.reload
  have stops := moved.stop
  constructor
  · exact wired.sound.step channelStep
  · exact wired.closed_step step
  · have claims := channelStep.claims .reload
    have before := wired.reload
    omega
  · have claims := channelStep.claims .stop
    have before := wired.stop
    omega
  · intro message queued
    cases step.queue with
    | kept other queue orders => exact wired.messages message (queue ▸ queued)
    | reloads sending sent queue orders =>
        rw [queue] at queued
        rcases List.mem_append.mp queued with old | new
        · exact wired.messages message old
        · cases List.mem_singleton.mp new
          trivial
    | stops sending queue orders =>
        rw [queue] at queued
        rcases List.mem_append.mp queued with old | new
        · exact wired.messages message old
        · cases List.mem_singleton.mp new
          rfl
    | received queue taken =>
        refine wired.messages message ?_
        rw [queue]
        exact List.mem_cons_of_mem _ queued

end Steps

/-! ## A fair scheduler -/

section Behaviors

variable {Multiaddr Namespace : Type} [PeerIdText PeerId]
  [PeerIdentity PeerId] [MultiaddrText Multiaddr] [NamespaceText Namespace]
  {toml : TomlEdit} {registry : TunnelRegistry PeerId}

/-- Both tasks and the loop go on when they can, and the clock of the drain
timer passes every deadline. -/
structure Scheduled
    (behavior : Behavior (stepProcess Multiaddr Namespace toml registry)) :
    Prop where
  hangups : WeaklyFair behavior
    (fun process => process.reload = .waiting ∧ process.hangup = true)
    (· = .receiveHangup)
  opens : WeaklyFair behavior (fun process => process.reload = .opening)
    fun event => event = .openFile ∨ event = .readFails
  reads : WeaklyFair behavior
    (fun process => ∃ file got, process.reload = .reading file got)
    fun event => (∃ count, event = .readFile count) ∨ event = .readFails
  pushesReload : WeaklyFair behavior
    (fun process => .reload ∈ process.channel.granted) (· = .pushReload)
  claims : WeaklyFair behavior (fun process => process.stop = .signalled)
    (· = .claimStop)
  pushesStop : WeaklyFair behavior
    (fun process => .stop ∈ process.channel.granted) (· = .pushStop)
  receives : WeaklyFair behavior
    (fun process =>
      process.channel.closed = false ∧ process.channel.queue ≠ [])
    fun event => ∃ now, event = .receive now
  ticks : ∀ deadline, WeaklyFair behavior
    (fun process => process.loop.running = true ∧
      process.loop.shutdownDeadline = some deadline)
    fun event => ∃ now, event = .loop (.drainTick now) ∧ deadline ≤ now

theorem Scheduled.onward
    {behavior : Behavior (stepProcess Multiaddr Namespace toml registry)}
    (scheduled : Scheduled behavior) (start : Nat) :
    Scheduled (behavior.onward start) where
  hangups := scheduled.hangups.onward start
  opens := scheduled.opens.onward start
  reads := scheduled.reads.onward start
  pushesReload := scheduled.pushesReload.onward start
  claims := scheduled.claims.onward start
  pushesStop := scheduled.pushesStop.onward start
  receives := scheduled.receives.onward start
  ticks deadline := (scheduled.ticks deadline).onward start

variable
  {behavior : Behavior (stepProcess Multiaddr Namespace toml registry)}

theorem wired_always (wired : Wired (behavior.state 0)) (moment : Nat) :
    Wired (behavior.state moment) := by
  induction moment with
  | zero => exact wired
  | succ moment induction =>
      exact induction.step (stepProcess_step (behavior.taken moment))

/-- The channel of a process under a fair scheduler. -/
theorem exists_channelBehavior (scheduled : Scheduled behavior) :
    ∃ channels : Behavior
        (stepChannel controlCapacity :
          Step (Channel ControlSender (GuardControl PeerId)) _ _),
      (∀ moment, channels.state moment = (behavior.state moment).channel) ∧
        Receives channels ∧ Pushes channels := by
  choose tick moved using fun moment =>
    (stepProcess_step (behavior.taken moment)).channel
  choose messages moves using fun moment => (moved moment).moves
  refine ⟨behavior.project GuardProcess.channel tick messages moves,
    fun _ => rfl, ?_, ?_⟩
  · intro moment always
    rcases scheduled.receives moment always with ⟨later, since, now, receives⟩
    have message := (moved later).message
    rw [receives] at message
    exact ⟨later, since, message⟩
  · intro sender moment always
    cases sender with
    | reload =>
        rcases scheduled.pushesReload moment always with ⟨later, since, pushes⟩
        have message := (moved later).message
        rw [pushes] at message
        exact ⟨later, since, message⟩
    | stop =>
        rcases scheduled.pushesStop moment always with ⟨later, since, pushes⟩
        have message := (moved later).message
        rw [pushes] at message
        exact ⟨later, since, message⟩

theorem claims_leadsTo_served (wired : Wired (behavior.state 0))
    (scheduled : Scheduled behavior) (sender : ControlSender) :
    LeadsTo behavior (fun process => 0 < process.channel.claims sender)
      fun process => Served sender process.channel := by
  rcases exists_channelBehavior scheduled with
    ⟨channels, same, receives, pushes⟩
  intro moment claims
  rcases List.mem_append.mp (List.count_pos_iff.mp claims) with
    granted | waiting
  · exact ⟨moment, Nat.le_refl _, Or.inl granted⟩
  · have sound : Sound controlCapacity (channels.state 0) := by
      rw [same]
      exact wired.sound
    rw [← same] at waiting
    rcases waiting_leadsTo_served (by decide) sound receives pushes moment
        waiting with ⟨later, since, served⟩
    rw [same] at served
    exact ⟨later, since, served⟩

/-- A task that sends holds its place in the end, and sends still, unless the
loop returns before. -/
theorem sends_leadsTo_granted (wired : Wired (behavior.state 0))
    (scheduled : Scheduled behavior) {sender : ControlSender}
    {Sends : GuardProcess PeerId → Prop}
    (claims : ∀ process, Wired process → Sends process →
      0 < process.channel.claims sender)
    (kept : ∀ moment, Sends (behavior.state moment) →
      sender ∉ (behavior.state moment).channel.granted →
        (behavior.state moment).channel.closed = false →
          Sends (behavior.state (moment + 1))) :
    LeadsTo behavior Sends fun process =>
      (Sends process ∧ sender ∈ process.channel.granted) ∨
        process.channel.closed = true := by
  have stays : ∀ moment, (Sends (behavior.state moment) ∧
      sender ∉ (behavior.state moment).channel.granted ∧
        (behavior.state moment).channel.closed = false) →
      (Sends (behavior.state (moment + 1)) ∧
        sender ∉ (behavior.state (moment + 1)).channel.granted ∧
          (behavior.state (moment + 1)).channel.closed = false) ∨
        (Sends (behavior.state (moment + 1)) ∧
            sender ∈ (behavior.state (moment + 1)).channel.granted) ∨
          (behavior.state (moment + 1)).channel.closed = true := by
    rintro moment ⟨sends, none, isOpen⟩
    have still := kept moment sends none isOpen
    by_cases granted : sender ∈ (behavior.state (moment + 1)).channel.granted
    · exact Or.inr (Or.inl ⟨still, granted⟩)
    · by_cases closed : (behavior.state (moment + 1)).channel.closed = true
      · exact Or.inr (Or.inr closed)
      · exact Or.inl ⟨still, granted, (Bool.not_eq_true _).mp closed⟩
  have waits : LeadsTo behavior
      (fun process => 0 < process.channel.claims sender ∧
        Sends process ∧ sender ∉ process.channel.granted ∧
          process.channel.closed = false)
      fun process =>
        ((sender ∈ process.channel.granted ∨ process.channel.closed = true) ∧
          Sends process ∧ sender ∉ process.channel.granted ∧
            process.channel.closed = false) ∨
          (Sends process ∧ sender ∈ process.channel.granted) ∨
            process.channel.closed = true :=
    (claims_leadsTo_served wired scheduled sender).unless stays
  intro moment sends
  by_cases granted : sender ∈ (behavior.state moment).channel.granted
  · exact ⟨moment, Nat.le_refl _, Or.inl ⟨sends, granted⟩⟩
  · by_cases closed : (behavior.state moment).channel.closed = true
    · exact ⟨moment, Nat.le_refl _, Or.inr closed⟩
    · rcases waits moment
          ⟨claims _ (wired_always wired moment) sends, sends, granted,
            (Bool.not_eq_true _).mp closed⟩ with
        ⟨later, since, ⟨served, still, none, isOpen⟩ | reached⟩
      · rcases served with granted | closed
        · exact absurd granted none
        · rw [isOpen] at closed
          cases closed
      · exact ⟨later, since, reached⟩

end Behaviors

end NuxAuth.Gateway
