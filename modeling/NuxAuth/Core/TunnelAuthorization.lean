import NuxAuth.Core.GuardTasks

/-!
# Authorization of tunnels, end to end

Started with a fresh authenticator, the loop connects a peer to a service only
when everything the Guard demands was true: the frame at the moment it was
complete, the rest at the moment the stream was dequeued.  Each demand is read
back from the recorded run: a shutdown by its absence, a session by the
verification that created it, the frame by the bytes the task received.
-/

namespace NuxAuth.Core

open NuxAuth.Lib.FiniteTable
open NuxAuth.Lib.RecordedRun
open GuardLoop GuardAuthenticator

variable {PeerId : Type} [DecidableEq PeerId] [PeerIdentity PeerId]

/-! ## Sessions and shutdowns, seen from the run -/

/-- A verification of the peer returned a grant. -/
def GrantsSession (peer : PeerId) (transition : GuardTransition PeerId) :
    Prop :=
  ∃ roles, .verified peer (.granted roles) ∈ transition.actions

/-- The peer was revoked, or its session ended with its connections. -/
def EndsSession (peer : PeerId) (transition : GuardTransition PeerId) : Prop :=
  .revoked peer ∈ transition.actions ∨
    .sessionEnded peer ∈ transition.actions

/-- The event is the processing of a shutdown command. -/
def RequestsShutdown (event : GuardEvent PeerId) : Prop :=
  ∃ gracePeriod now, event = .control (.shutdown gracePeriod) now

section Step

variable {registry : TunnelRegistry PeerId} {loop next : GuardLoop PeerId}
    {event : GuardEvent PeerId} {actions : List (GuardAction PeerId)}
    {peer : PeerId}

theorem GuardStep.session_ended
    (step : GuardStep registry loop event next actions)
    (ended : .revoked peer ∈ actions ∨ .sessionEnded peer ∈ actions) :
    ¬ next.HasSession peer := by
  have revokedSession : ∀ {before : GuardLoop PeerId} {peers : List PeerId},
      Revocation before next peers actions → ¬ next.HasSession peer := by
    rintro before peers revocation ⟨roles, session⟩
    have listed : peer ∈ peers := by
      rcases ended with revoked | sessionEnded
      · exact (revocation.logged peer).mp revoked
      · rcases revocation.quiet _ sessionEnded with ⟨other, -, same | same⟩
        · cases same
        · cases same
    rw [revocation.sessions, if_pos listed] at session
    cases session
  cases step with
  | closedLast found last =>
      rename_i connection closing phase
      rintro ⟨roles, session⟩
      have same : peer = closing := by simpa using ended
      subst same
      change (loop.authenticator.sessions.erase peer).lookup peer = _
        at session
      rw [AList.lookup_erase] at session
      cases session
  | revoked revokedPeer now =>
      exact revokedSession (revokePeers_revocation loop [revokedPeer])
  | reloaded newWhitelist now =>
      exact revokedSession (revokePeers_revocation _ _)
  | _ => simp at ended

/-- Once a shutdown was requested, the deadline stays. -/
theorem GuardStep.serving
    (step : GuardStep registry loop event next actions)
    (serving : next.shutdownDeadline = none) :
    loop.shutdownDeadline = none ∧ ¬ RequestsShutdown event := by
  cases step with
  | streamOverCap found running authorized reserved full =>
      exact ⟨running, by simp [RequestsShutdown]⟩
  | streamSpawned found running authorized reserved permitted =>
      exact ⟨running, by simp [RequestsShutdown]⟩
  | stopping gracePeriod now => cases serving
  | revoked revokedPeer now =>
      rw [(revokePeers_revocation loop [revokedPeer]).shutdownDeadline] at serving
      exact ⟨serving, by simp [RequestsShutdown]⟩
  | reloaded newWhitelist now =>
      rw [(revokePeers_revocation (loop.replaceWhitelist newWhitelist)
        _).shutdownDeadline] at serving
      exact ⟨serving, by simp [RequestsShutdown]⟩
  | idle control running quiet =>
      refine ⟨serving, ?_⟩
      rintro ⟨gracePeriod, now, rfl⟩
      simp at quiet
  | _ => exact ⟨serving, by simp [RequestsShutdown]⟩

end Step

section Runs

variable {registry : TunnelRegistry PeerId} {start finish : GuardLoop PeerId}
    {trace : List (GuardTransition PeerId)}

/-- A session was granted in the run and not ended since. -/
theorem session_since
    (run : Run (runGuardLoop registry) start trace finish) {peer : PeerId}
    (fresh : ¬ start.HasSession peer) (session : finish.HasSession peer) :
    Since (GrantsSession peer) (EndsSession peer) trace := by
  induction run with
  | start => exact absurd session fresh
  | snoc prior taken induction =>
      have step := runGuardLoop_step taken
      rcases step.session_gained session with before | granted
      · refine (induction before).kept ?_
        intro ended
        exact step.session_ended ended session
      · exact Since.now granted

theorem no_shutdown_of_serving
    (run : Run (runGuardLoop registry) start trace finish)
    (serving : finish.shutdownDeadline = none) :
    ∀ transition ∈ trace, ¬ RequestsShutdown transition.event := by
  induction run with
  | start => simp
  | snoc prior taken induction =>
      rcases (runGuardLoop_step taken).serving serving with ⟨before, quiet⟩
      intro transition member
      rcases List.mem_append.mp member with old | new
      · exact induction before transition old
      · rw [List.mem_singleton.mp new]
        exact quiet

end Runs

/-! ## The bytes a task received -/

/-- The bytes an event hands to the numbered task. -/
def chunkFor (id : Nat) : GuardEvent PeerId → List UInt8
  | .task target (.received chunk) => if target = id then chunk else []
  | _ => []

/-- All that a task has received. -/
def receivedBytes (id : Nat) (trace : List (GuardTransition PeerId)) :
    List UInt8 :=
  trace.flatMap fun transition => chunkFor id transition.event

/-- The stage of a task is what its received bytes amount to. -/
structure FrameRead (id : Nat) (trace : List (GuardTransition PeerId))
    (task : ServeTask PeerId) : Prop where
  reading : ∀ received, task.stage = .readingHeader received →
    received = receivedBytes id trace
  past : ∀ header service, task.stage.admitted? = some (header, service) →
    ∃ rest, readHeader (receivedBytes id trace) = .complete header rest

/-- A task comes from a dequeue in the run and has read its own bytes. -/
structure Recorded (trace : List (GuardTransition PeerId))
    (loop : GuardLoop PeerId) : Prop where
  numbered : ∀ transition ∈ trace, ∀ id resumption,
    transition.event = .task id resumption → id < loop.nextTask
  below : TasksNumbered loop
  dequeued : ∀ id task, loop.tasks.lookup id = some task →
    ∃ transition ∈ trace, .spawned id task.peer ∈ transition.actions
  read : ∀ id task, loop.tasks.lookup id = some task → FrameRead id trace task

omit [DecidableEq PeerId] [PeerIdentity PeerId] in
theorem receivedBytes_snoc (id : Nat)
    (trace : List (GuardTransition PeerId))
    (last : GuardTransition PeerId) :
    receivedBytes id (trace ++ [last]) =
      receivedBytes id trace ++ chunkFor id last.event := by
  simp [receivedBytes]

omit [DecidableEq PeerId] [PeerIdentity PeerId] in
/-- A number not given out yet has received nothing. -/
theorem receivedBytes_eq_nil {id : Nat}
    {trace : List (GuardTransition PeerId)}
    (unused : ∀ transition ∈ trace, ∀ target resumption,
      transition.event = .task target resumption → target ≠ id) :
    receivedBytes id trace = [] := by
  rw [receivedBytes, List.flatMap_eq_nil_iff]
  intro transition member
  unfold chunkFor
  split
  · rename_i target chunk same
    exact if_neg (unused transition member target _ same)
  · rfl

omit [DecidableEq PeerId] [PeerIdentity PeerId] in
/-- A transition that hands the task no byte keeps what it read. -/
theorem FrameRead.later {id : Nat} {trace : List (GuardTransition PeerId)}
    {task moved : ServeTask PeerId} (read : FrameRead id trace task)
    {last : GuardTransition PeerId} (quiet : chunkFor id last.event = [])
    (reading : ∀ received, moved.stage = .readingHeader received →
      task.stage = .readingHeader received)
    (past : ∀ header service,
      moved.stage.admitted? = some (header, service) →
        task.stage.admitted? = some (header, service)) :
    FrameRead id (trace ++ [last]) moved := by
  have bytes : receivedBytes id (trace ++ [last]) =
      receivedBytes id trace := by
    rw [receivedBytes_snoc, quiet, List.append_nil]
  constructor
  · intro received same
    rw [bytes]
    exact read.reading received (reading received same)
  · intro header service admitted
    rw [bytes]
    exact read.past header service (past header service admitted)

omit [PeerIdentity PeerId] in
theorem FrameRead.resume {id : Nat}
    {trace : List (GuardTransition PeerId)}
    {registry : TunnelRegistry PeerId} {task : ServeTask PeerId}
    (read : FrameRead id trace task) {resumption : ServeEvent}
    {stage : ServeStage} {done : List ServeAction}
    (continued : serveIo registry task.peer task.roles task.stage resumption =
      some (.continues stage done))
    {last : GuardTransition PeerId} (here : last.event = .task id resumption) :
    FrameRead id (trace ++ [last]) { task with stage := stage } := by
  have extended : ∀ received chunk, task.stage = .readingHeader received →
      resumption = .received chunk →
        receivedBytes id (trace ++ [last]) = received ++ chunk := by
    rintro received chunk before rfl
    rw [receivedBytes_snoc, here, ← read.reading received before]
    simp [chunkFor]
  rcases serveIo_continues continued with
    ⟨received, chunk, before, event, rfl, -⟩ |
    ⟨received, chunk, header, rest, service, before, event, complete, -, rfl,
      -⟩ |
    ⟨header, service, before, event, rfl, -⟩ |
    ⟨header, service, before, event, rfl, -⟩
  · constructor
    · intro longer same
      cases same
      exact (extended received chunk before event).symm
    · intro header service past
      cases past
  · constructor
    · intro longer same
      cases same
    · intro decoded exposed past
      cases past
      exact ⟨rest, by rw [extended received chunk before event, complete]⟩
  · refine read.later ?_ ?_ ?_
    · rw [here, event]
      rfl
    · intro received same
      cases same
    · intro decoded exposed past
      rw [before]
      exact past
  · refine read.later ?_ ?_ ?_
    · rw [here, event]
      rfl
    · intro received same
      cases same
    · intro decoded exposed past
      rw [before]
      exact past

omit [DecidableEq PeerId] [PeerIdentity PeerId] in
private theorem chunkFor_eq_nil {id : Nat} {event : GuardEvent PeerId}
    (elsewhere : ∀ resumption, event ≠ .task id resumption) :
    chunkFor id event = [] := by
  unfold chunkFor
  split
  · rename_i target chunk
    apply if_neg
    rintro rfl
    exact elsewhere _ rfl
  · rfl

/-- A resumption is of a task in the table. -/
theorem GuardStep.task_lookup {registry : TunnelRegistry PeerId}
    {loop next : GuardLoop PeerId} {actions : List (GuardAction PeerId)}
    {id : Nat} {resumption : ServeEvent}
    (step : GuardStep registry loop (.task id resumption) next actions) :
    ∃ task, loop.tasks.lookup id = some task := by
  cases step with
  | idle control running quiet => simp at quiet
  | taskContinued found resumed => exact ⟨_, found⟩
  | taskEnded found resumed => exact ⟨_, found⟩

theorem Recorded.step {registry : TunnelRegistry PeerId}
    {trace : List (GuardTransition PeerId)} {loop next : GuardLoop PeerId}
    {event : GuardEvent PeerId} {actions : List (GuardAction PeerId)}
    (recorded : Recorded trace loop)
    (step : GuardStep registry loop event next actions) :
    Recorded (trace ++ [⟨loop, event, actions, next⟩]) next := by
  constructor
  · intro transition member id resumption same
    apply lt_of_lt_of_le _ step.nextTask_le
    rcases List.mem_append.mp member with old | new
    · exact recorded.numbered transition old id resumption same
    · rw [List.mem_singleton.mp new] at same
      cases same
      rcases step.task_lookup with ⟨task, present⟩
      exact recorded.below id task present
  · exact recorded.below.step step
  · intro id task present
    have lift : ∀ old : ServeTask PeerId, loop.tasks.lookup id = some old →
        old.peer = task.peer →
          ∃ transition ∈ trace ++ [⟨loop, event, actions, next⟩],
            .spawned id task.peer ∈ transition.actions := by
      intro old present samePeer
      rcases recorded.dequeued id old present with
        ⟨transition, member, logged⟩
      rw [samePeer] at logged
      exact ⟨transition, List.mem_append_left _ member, logged⟩
    cases step.task_origin present with
    | kept present elsewhere => exact lift task present rfl
    | resumed old resumption done present here continued same =>
      exact lift old present (by rw [same])
    | admitted admitted =>
      refine ⟨_, List.mem_concat_self, ?_⟩
      rw [admitted.logged]
      exact List.mem_singleton_self _
  · intro id task present
    cases step.task_origin present with
    | kept present elsewhere =>
      exact (recorded.read id task present).later (chunkFor_eq_nil elsewhere)
        (fun _ same => same) fun _ _ same => same
    | resumed old resumption done present here continued same =>
      rw [same]
      exact (recorded.read id old present).resume continued here
    | admitted admitted =>
      have nothing : receivedBytes id
          (trace ++ [⟨loop, event, actions, next⟩]) = [] := by
        apply receivedBytes_eq_nil
        intro transition member target resumption same
        rcases List.mem_append.mp member with old | new
        · rw [admitted.numbered]
          exact (recorded.numbered transition old target _ same).ne
        · rw [List.mem_singleton.mp new] at same
          have : event = .task target resumption := same
          rw [admitted.dequeued] at this
          cases this
      constructor
      · intro received same
        rw [admitted.waiting] at same
        cases same
        exact nothing.symm
      · intro header service past
        rw [admitted.waiting] at past
        cases past

theorem recorded_of_run {registry : TunnelRegistry PeerId}
    {start finish : GuardLoop PeerId}
    {trace : List (GuardTransition PeerId)}
    (idle : start.tasks = ∅)
    (run : Run (runGuardLoop registry) start trace finish) :
    Recorded trace finish := by
  induction run with
  | start =>
      constructor
      · intro transition member
        cases member
      · intro id task present
        rw [idle] at present
        cases present
      · intro id task present
        rw [idle] at present
        cases present
      · intro id task present
        rw [idle] at present
        cases present
  | snoc prior taken induction =>
      exact induction.step (runGuardLoop_step taken)

/-! ## The authorization theorem -/

/--
Whenever a task connects to a service or acknowledges it, the frame it received
names that service, and its stream was dequeued while no shutdown had been
requested, the peer's session was open, the peer was whitelisted with the
required role, and its registered fingerprint is the declared one.
-/
theorem tunnel_authorized {registry : TunnelRegistry PeerId}
    {whitelist : Whitelist PeerId} {control : Bool} {metrics : Metrics}
    {connections : List (Connection PeerId)}
    {earlier later : List (GuardTransition PeerId)}
    {use : GuardTransition PeerId} {finish : GuardLoop PeerId}
    (run : Run (runGuardLoop registry)
      (GuardLoop.start (GuardAuthenticator.new whitelist) registry control
        metrics connections) (earlier ++ use :: later) finish)
    {id : Nat} {peer : PeerId} {action : ServeAction}
    (served : .served id peer action ∈ use.actions) :
    ∃ before dequeue middle header rest service roles,
      earlier = before ++ dequeue :: middle ∧
      .spawned id peer ∈ dequeue.actions ∧
      readHeader (receivedBytes id (earlier ++ [use])) =
        .complete header rest ∧
      header.service = action.service ∧
      registry.get action.service = some service ∧
      (∀ target, action = .connect action.service target →
        target = service.target) ∧
      (∀ transition ∈ before, ¬ RequestsShutdown transition.event) ∧
      Since (GrantsSession peer) (EndsSession peer) before ∧
      dequeue.before.authenticator.whitelist.roles peer = some roles ∧
      (∀ role, service.requiredRole = some role → role ∈ roles) ∧
      ∀ expected, registry.expectedBinarySha256 peer = some expected →
        header.binarySha256 = expected := by
  rcases run.transition with ⟨untilUse, atUse, -⟩
  have useStep := runGuardLoop_step atUse
  have recorded := recorded_of_run rfl untilUse
  rcases useStep.served served with ⟨task, -, -, -, present, rfl, -, -, -, -⟩
  rcases recorded.dequeued id task present with ⟨dequeue, member, dequeued⟩
  rcases List.append_of_mem member with ⟨before, middle, rfl⟩
  rcases untilUse.transition with ⟨untilDequeue, atDequeue, afterDequeue⟩
  rcases (runGuardLoop_step atDequeue).follows dequeued with
    ⟨roles, authorized, serving, follows⟩
  have followed : Follows registry task.peer roles id use.before := by
    refine afterDequeue.invariant follows ?_
    intro state event next actions before taken
    exact before.step (runGuardLoop_step taken)
  rcases followed.served useStep served with
    ⟨header, service, sameService, allowed, sameTarget, after, stays, past⟩
  rcases admitHeader_eq_some_iff.mp allowed with ⟨exposed, held, declared⟩
  rcases ((recorded.step useStep).read id after stays).past header service past
    with ⟨rest, complete⟩
  rcases sessionRoles_eq_some_iff.mp authorized with ⟨session, listed⟩
  refine ⟨before, dequeue, middle, header, rest, service, roles, rfl, dequeued,
    complete, sameService, sameService ▸ exposed, sameTarget,
    no_shutdown_of_serving untilDequeue serving, ?_, listed, held, declared⟩
  refine session_since untilDequeue ?_ session
  rintro ⟨granted, none⟩
  cases none

section SmallRun

open SmallGuard

/-- The last transition acknowledges the tunnel. -/
def acknowledgesTunnel (trace : List (GuardTransition BytePeer)) : Bool :=
  trace.getLast?.any fun use =>
    logs use (.served 0 peer (.writeAck "db"))

theorem tunnel_authorized_small :
    ∃ earlier use finish before dequeue middle,
      Run (runGuardLoop registry) start (earlier ++ use :: []) finish ∧
      .served 0 peer (.writeAck "db") ∈ use.actions ∧
      earlier = before ++ dequeue :: middle ∧
      Since (GrantsSession peer) (EndsSession peer) before ∧
      ∃ roles, dequeue.before.authenticator.whitelist.roles peer =
        some roles ∧ "reader" ∈ roles := by
  have computed : (execute (runGuardLoop registry) start (handshake ++
      [.incomingStream 0, .task 0 (.received frame),
        .task 0 .connected])).any
      (fun result => acknowledgesTunnel result.1) = true := by
    decide +kernel
  rcases exists_run_of_any computed with ⟨trace, finish, run, events, observed⟩
  simp only [acknowledgesTunnel, Option.any_eq_true, logs_iff,
    List.getLast?_eq_some_iff] at observed
  rcases observed with ⟨use, ⟨earlier, rfl⟩, served⟩
  rcases tunnel_authorized run served with
    ⟨before, dequeue, middle, header, rest, service, roles, whole, -, -, -,
      exposed, -, -, since, listed, held, -⟩
  have required : service.requiredRole = some "reader" := by
    cases exposed
    rfl
  exact ⟨earlier, use, finish, before, dequeue, middle, run, served, whole,
    since, roles, listed, held "reader" required⟩

end SmallRun

end NuxAuth.Core
