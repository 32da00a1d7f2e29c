import NuxAuth.Core.Shutdown

/-!
# The guard loop in its smallest steps

`runGuardLoop` takes a dequeued stream and the end of a serve task in one step
each.  The code does not: the loop tries the two semaphores one after the other
and counts the stream before or after it gives a permit back, and a finished
task counts its outcome, releases the permit of its peer, and only then the
global one.  Serve tasks run on other threads, so these steps interleave with
each other, and the drain check sees whatever they left.

`runDrainLoop` takes them one by one.  Everything else is a step of
`runGuardLoop`, and every run of `runGuardLoop` is a run in small steps.
-/

namespace NuxAuth.Core

open NuxAuth.Lib.FiniteTable
open NuxAuth.Lib.RecordedRun
open GuardLoop GuardAuthenticator

variable {PeerId : Type}

/-! ## State and events -/

/-- What the loop is doing with the stream it dequeued last. -/
inductive StreamStage (PeerId : Type) where
  | waiting
  | dequeued (peer : PeerId) (connection : Nat)
  | reserved (peer : PeerId) (connection : Nat) (roles : List String)
      (semaphore : Nat)
  | permitted (peer : PeerId) (connection : Nat) (roles : List String)
      (semaphore : Nat)
  | started (peer : PeerId) (connection : Nat) (roles : List String)
      (semaphore : Nat)
  | refusing (semaphore : Option Nat)
  | returning (semaphore : Nat)

/-- How far a task got after `serve_stream` returned. -/
inductive EndStage where
  | returned (outcome : TunnelOutcome)
  | recorded
  | released

/-- A task that left `serve_stream` and still holds its global permit. -/
structure EndingTask where
  semaphore : Nat
  stage : EndStage

/-- The loop, the stream it is looking at and the tasks that are ending. -/
structure DrainLoop (PeerId : Type) where
  /-- its tasks are those still inside `serve_stream` -/
  loop : GuardLoop PeerId
  stage : StreamStage PeerId
  ending : Table Nat EndingTask

/-- An event of the loop, or the next small step of a stream or of a task. -/
inductive DrainEvent (PeerId : Type) where
  | loop (event : GuardEvent PeerId)
  | advance
  | record (id : Nat)
  | releasePeer (id : Nat)
  | releaseGlobal (id : Nat)

/-- One recorded small step. -/
abbrev DrainTransition (PeerId : Type) :=
  Transition (DrainLoop PeerId) (DrainEvent PeerId) (GuardAction PeerId)

/-- The events that `runDrainLoop` takes apart. -/
def GuardEvent.OfTunnel : GuardEvent PeerId → Prop
  | .incomingStream _ => True
  | .task _ _ => True
  | _ => False

namespace DrainLoop

/-- No stream is looked at, and no task is ending. -/
def start (loop : GuardLoop PeerId) : DrainLoop PeerId := ⟨loop, .waiting, ∅⟩

variable [DecidableEq PeerId]

/-! ## A dequeued stream -/

/-- A stream is taken from the queue. -/
def dequeue (state : DrainLoop PeerId) (connection : Nat) :
    Option (DrainLoop PeerId) :=
  match state.stage with
  | .waiting =>
      if state.loop.running then
        (state.loop.connections[connection]?).map fun carrier =>
          { state with stage := .dequeued carrier.peer connection }
      else
        none
  | _ => none

/-- The checks up to the permit of the peer. -/
def reserve [PeerIdentity PeerId] (registry : TunnelRegistry PeerId)
    (state : DrainLoop PeerId) (peer : PeerId) (connection : Nat) :
    DrainLoop PeerId × List (GuardAction PeerId) :=
  if state.loop.shutdownDeadline.isSome then
    ({ state with stage := .refusing none }, [])
  else
    match state.loop.authenticator.sessionRoles peer with
    | none =>
        let (cut, actions) := state.loop.silence peer
        ({ state with loop := cut, stage := .refusing none }, actions)
    | some roles =>
        let (entered, semaphore) := peerSemaphore registry state.loop peer
        if entered.semaphores semaphore = 0 then
          ({ state with loop := entered, stage := .refusing none }, [])
        else
          ({ state with
              loop := { entered with
                semaphores := Function.update entered.semaphores semaphore
                  (entered.semaphores semaphore - 1) }
              stage := .reserved peer connection roles semaphore }, [])

omit [DecidableEq PeerId] in
/-- A permit returns to the semaphore of the peer. -/
def giveBack (loop : GuardLoop PeerId) (semaphore : Nat) : GuardLoop PeerId :=
  { loop with
    semaphores := Function.update loop.semaphores semaphore
      (loop.semaphores semaphore + 1) }

/-- The next step of the iteration that dequeued a stream. -/
def advance [PeerIdentity PeerId] (registry : TunnelRegistry PeerId)
    (state : DrainLoop PeerId) :
    Option (DrainLoop PeerId × List (GuardAction PeerId)) :=
  match state.stage with
  | .waiting => none
  | .dequeued peer connection => some (state.reserve registry peer connection)
  | .reserved peer connection roles semaphore =>
      if state.loop.global = 0 then
        some ({ state with stage := .refusing (some semaphore) }, [])
      else
        some ({ state with
            loop := { state.loop with global := state.loop.global - 1 }
            stage := .permitted peer connection roles semaphore }, [])
  | .permitted peer connection roles semaphore =>
      some ({ state with
          loop := { state.loop with
            metrics := state.loop.metrics.recordTunnelStarted }
          stage := .started peer connection roles semaphore }, [])
  | .started peer connection roles semaphore =>
      some ({ state with
          loop := { state.loop with
            tasks := state.loop.tasks.insert state.loop.nextTask
              ⟨peer, connection, roles, semaphore, .readingHeader []⟩
            nextTask := state.loop.nextTask + 1 }
          stage := .waiting },
        [.spawned state.loop.nextTask peer])
  | .refusing held =>
      -- A permit of the peer is dropped after the refusal was counted.
      some ({ state with
          loop := state.loop.denyStream
          stage := (held.map StreamStage.returning).getD .waiting }, [])
  | .returning semaphore =>
      some ({ state with
          loop := giveBack state.loop semaphore
          stage := .waiting }, [])

/-! ## The end of a serve task -/

/-- One resumption of `serve_stream`; a task that returns starts to end. -/
def resume (registry : TunnelRegistry PeerId) (state : DrainLoop PeerId)
    (id : Nat) (event : ServeEvent) :
    Option (DrainLoop PeerId × List (GuardAction PeerId)) :=
  match state.loop.tasks.lookup id with
  | none => none
  | some task =>
      match serveIo registry task.peer task.roles task.stage event with
      | none => none
      | some (.continues stage actions) =>
          some ({ state with
              loop := { state.loop with
                tasks :=
                  state.loop.tasks.insert id { task with stage := stage } } },
            actions.map (.served id task.peer))
      | some (.ends outcome) =>
          some ({ state with
              loop := { state.loop with tasks := state.loop.tasks.erase id }
              ending := state.ending.insert id
                ⟨task.semaphore, .returned outcome⟩ }, [])

omit [DecidableEq PeerId] in
/-- A task that has returned records its outcome. -/
def record (state : DrainLoop PeerId) (id : Nat) : Option (DrainLoop PeerId) :=
  match state.ending.lookup id with
  | some ⟨semaphore, .returned outcome⟩ =>
      some { state with
        loop := { state.loop with
          metrics := state.loop.metrics.recordTunnelFinished outcome }
        ending := state.ending.insert id ⟨semaphore, .recorded⟩ }
  | _ => none

omit [DecidableEq PeerId] in
/-- `drop(peer_permit)`. -/
def releasePeer (state : DrainLoop PeerId) (id : Nat) :
    Option (DrainLoop PeerId) :=
  match state.ending.lookup id with
  | some ⟨semaphore, .recorded⟩ =>
      some { state with
        loop := giveBack state.loop semaphore
        ending := state.ending.insert id ⟨semaphore, .released⟩ }
  | _ => none

omit [DecidableEq PeerId] in
/-- `drop(global_permit)`, the last thing a task does. -/
def releaseGlobal (state : DrainLoop PeerId) (id : Nat) :
    Option (DrainLoop PeerId × List (GuardAction PeerId)) :=
  match state.ending.lookup id with
  | some ⟨_, .released⟩ =>
      some ({ state with
          loop := { state.loop with global := state.loop.global + 1 }
          ending := state.ending.erase id }, [.finished id])
  | _ => none

end DrainLoop

variable [DecidableEq PeerId] [PeerIdentity PeerId]

/-! ## The small steps -/

/-- One small step of the loop or of a serve task. -/
def runDrainLoop (registry : TunnelRegistry PeerId) :
    Step (DrainLoop PeerId) (DrainEvent PeerId) (GuardAction PeerId) :=
  fun state event =>
    match event with
    | .loop (.task id event) => state.resume registry id event
    | .loop (.incomingStream connection) =>
        (state.dequeue connection).map fun next => (next, [])
    | .loop event =>
        match state.stage with
        | .waiting =>
            (runGuardLoop registry state.loop event).map fun (next, actions) =>
              ({ state with loop := next }, actions)
        | _ => none
    | .advance => state.advance registry
    | .record id => (state.record id).map fun next => (next, [])
    | .releasePeer id => (state.releasePeer id).map fun next => (next, [])
    | .releaseGlobal id => state.releaseGlobal id

/-- The small steps, each with its guard and its effect. -/
inductive DrainStep (registry : TunnelRegistry PeerId)
    (state : DrainLoop PeerId) :
    DrainEvent PeerId → DrainLoop PeerId → List (GuardAction PeerId) →
      Prop where
  | delegated {event : GuardEvent PeerId} {next : GuardLoop PeerId}
      {actions : List (GuardAction PeerId)}
      (waiting : state.stage = .waiting) (apart : ¬ event.OfTunnel)
      (taken : runGuardLoop registry state.loop event = some (next, actions)) :
      DrainStep registry state (.loop event) { state with loop := next } actions
  | dequeued {connection : Nat} {carrier : Connection PeerId}
      (waiting : state.stage = .waiting)
      (running : state.loop.running = true)
      (found : state.loop.connections[connection]? = some carrier) :
      DrainStep registry state (.loop (.incomingStream connection))
        { state with stage := .dequeued carrier.peer connection } []
  | stopping {peer : PeerId} {connection : Nat}
      (hand : state.stage = .dequeued peer connection)
      (stopping : state.loop.Stopping) :
      DrainStep registry state .advance
        { state with stage := .refusing none } []
  | unauthenticated {peer : PeerId} {connection : Nat}
      (hand : state.stage = .dequeued peer connection)
      (absent : state.loop.authenticator.sessionRoles peer = none) :
      DrainStep registry state .advance
        { state with
          loop := state.loop.disconnectPeerId peer
          stage := .refusing none }
        [.disconnect peer]
  | overPeerCap {peer : PeerId} {connection : Nat}
      {entered : GuardLoop PeerId} {semaphore : Nat}
      (hand : state.stage = .dequeued peer connection)
      (reserved : peerSemaphore registry state.loop peer =
        (entered, semaphore))
      (full : entered.semaphores semaphore = 0) :
      DrainStep registry state .advance
        { state with loop := entered, stage := .refusing none } []
  | reserved {peer : PeerId} {connection : Nat} {roles : List String}
      {entered : GuardLoop PeerId} {semaphore : Nat}
      (hand : state.stage = .dequeued peer connection)
      (reserved : peerSemaphore registry state.loop peer =
        (entered, semaphore))
      (permitted : 0 < entered.semaphores semaphore) :
      DrainStep registry state .advance
        { state with
          loop := { entered with
            semaphores := Function.update entered.semaphores semaphore
              (entered.semaphores semaphore - 1) }
          stage := .reserved peer connection roles semaphore }
        []
  | overTotal {peer : PeerId} {connection : Nat} {roles : List String}
      {semaphore : Nat}
      (hand : state.stage = .reserved peer connection roles semaphore)
      (full : state.loop.global = 0) :
      DrainStep registry state .advance
        { state with stage := .refusing (some semaphore) } []
  | permitted {peer : PeerId} {connection : Nat} {roles : List String}
      {semaphore : Nat}
      (hand : state.stage = .reserved peer connection roles semaphore)
      (permitted : 0 < state.loop.global) :
      DrainStep registry state .advance
        { state with
          loop := { state.loop with global := state.loop.global - 1 }
          stage := .permitted peer connection roles semaphore }
        []
  | started {peer : PeerId} {connection : Nat} {roles : List String}
      {semaphore : Nat}
      (hand : state.stage = .permitted peer connection roles semaphore) :
      DrainStep registry state .advance
        { state with
          loop := { state.loop with
            metrics := state.loop.metrics.recordTunnelStarted }
          stage := .started peer connection roles semaphore }
        []
  | spawned {peer : PeerId} {connection : Nat} {roles : List String}
      {semaphore : Nat}
      (hand : state.stage = .started peer connection roles semaphore) :
      DrainStep registry state .advance
        { state with
          loop := { state.loop with
            tasks := state.loop.tasks.insert state.loop.nextTask
              ⟨peer, connection, roles, semaphore, .readingHeader []⟩
            nextTask := state.loop.nextTask + 1 }
          stage := .waiting }
        [.spawned state.loop.nextTask peer]
  | denied {held : Option Nat} (hand : state.stage = .refusing held) :
      DrainStep registry state .advance
        { state with
          loop := state.loop.denyStream
          stage := (held.map StreamStage.returning).getD .waiting }
        []
  | gaveBack {semaphore : Nat} (hand : state.stage = .returning semaphore) :
      DrainStep registry state .advance
        { state with
          loop := DrainLoop.giveBack state.loop semaphore
          stage := .waiting }
        []
  | continued {id : Nat} {task : ServeTask PeerId} {event : ServeEvent}
      {stage : ServeStage} {actions : List ServeAction}
      (found : state.loop.tasks.lookup id = some task) :
      DrainStep registry state (.loop (.task id event))
        { state with
          loop := { state.loop with
            tasks := state.loop.tasks.insert id { task with stage := stage } } }
        (actions.map (.served id task.peer))
  | returned {id : Nat} {task : ServeTask PeerId} {event : ServeEvent}
      {outcome : TunnelOutcome}
      (found : state.loop.tasks.lookup id = some task) :
      DrainStep registry state (.loop (.task id event))
        { state with
          loop := { state.loop with tasks := state.loop.tasks.erase id }
          ending := state.ending.insert id
            ⟨task.semaphore, .returned outcome⟩ }
        []
  | recorded {id semaphore : Nat} {outcome : TunnelOutcome}
      (found : state.ending.lookup id =
        some ⟨semaphore, .returned outcome⟩) :
      DrainStep registry state (.record id)
        { state with
          loop := { state.loop with
            metrics := state.loop.metrics.recordTunnelFinished outcome }
          ending := state.ending.insert id ⟨semaphore, .recorded⟩ }
        []
  | releasedPeer {id semaphore : Nat}
      (found : state.ending.lookup id = some ⟨semaphore, .recorded⟩) :
      DrainStep registry state (.releasePeer id)
        { state with
          loop := DrainLoop.giveBack state.loop semaphore
          ending := state.ending.insert id ⟨semaphore, .released⟩ }
        []
  | releasedGlobal {id semaphore : Nat}
      (found : state.ending.lookup id = some ⟨semaphore, .released⟩) :
      DrainStep registry state (.releaseGlobal id)
        { state with
          loop := { state.loop with global := state.loop.global + 1 }
          ending := state.ending.erase id }
        [.finished id]

section Inversion

variable {registry : TunnelRegistry PeerId} {state next : DrainLoop PeerId}
    {actions : List (GuardAction PeerId)}

private theorem reserve_step {peer : PeerId} {connection : Nat}
    (hand : state.stage = .dequeued peer connection)
    (taken : state.reserve registry peer connection = (next, actions)) :
    DrainStep registry state .advance next actions := by
  unfold DrainLoop.reserve at taken
  split at taken
  · rename_i stopping
    cases taken
    exact .stopping hand (Option.isSome_iff_ne_none.mp stopping)
  · cases session : state.loop.authenticator.sessionRoles peer with
    | none =>
        rw [session] at taken
        cases taken
        exact .unauthenticated hand session
    | some roles =>
        rw [session] at taken
        cases reserved : peerSemaphore registry state.loop peer with
        | mk entered semaphore =>
            simp only [reserved] at taken
            split at taken
            · rename_i full
              cases taken
              exact .overPeerCap hand reserved full
            · rename_i permitted
              cases taken
              exact .reserved hand reserved (Nat.pos_of_ne_zero permitted)

private theorem advance_step
    (taken : state.advance registry = some (next, actions)) :
    DrainStep registry state .advance next actions := by
  unfold DrainLoop.advance at taken
  split at taken
  · cases taken
  · rename_i peer connection hand
    exact reserve_step hand (Option.some.inj taken)
  · rename_i peer connection roles semaphore hand
    split at taken
    · rename_i full
      cases taken
      exact .overTotal hand full
    · rename_i permitted
      cases taken
      exact .permitted hand (Nat.pos_of_ne_zero permitted)
  · rename_i hand
    cases taken
    exact .started hand
  · rename_i hand
    cases taken
    exact .spawned hand
  · rename_i hand
    cases taken
    exact .denied hand
  · rename_i hand
    cases taken
    exact .gaveBack hand

private theorem resume_step {id : Nat} {event : ServeEvent}
    (taken : state.resume registry id event = some (next, actions)) :
    DrainStep registry state (.loop (.task id event)) next actions := by
  unfold DrainLoop.resume at taken
  split at taken
  · cases taken
  · rename_i task found
    split at taken
    · cases taken
    · cases taken
      exact .continued found
    · cases taken
      exact .returned found

private theorem dequeue_step {connection : Nat}
    (taken : state.dequeue connection = some next) :
    DrainStep registry state (.loop (.incomingStream connection)) next [] := by
  unfold DrainLoop.dequeue at taken
  split at taken
  · rename_i waiting
    rcases Option.ite_none_right_eq_some.mp taken with ⟨running, same⟩
    rcases Option.map_eq_some_iff.mp same with ⟨carrier, found, rfl⟩
    exact .dequeued waiting running found
  · cases taken

private theorem delegate_step {event : GuardEvent PeerId}
    (apart : ¬ event.OfTunnel)
    (taken : (match state.stage with
      | .waiting =>
          (runGuardLoop registry state.loop event).map fun result =>
            ({ state with loop := result.1 }, result.2)
      | _ => none) = some (next, actions)) :
    DrainStep registry state (.loop event) next actions := by
  split at taken
  · rename_i waiting
    rcases Option.map_eq_some_iff.mp taken with ⟨⟨loop, logged⟩, served, same⟩
    cases same
    exact .delegated waiting apart served
  · cases taken

/-- Every small step is one of the listed ones. -/
theorem runDrainLoop_step {event : DrainEvent PeerId}
    (taken : runDrainLoop registry state event = some (next, actions)) :
    DrainStep registry state event next actions := by
  cases event with
  | loop event =>
      cases event with
      | task id event => exact resume_step taken
      | incomingStream connection =>
          rcases Option.map_eq_some_iff.mp taken with ⟨reached, moved, same⟩
          cases same
          exact dequeue_step moved
      | _ => exact delegate_step not_false taken
  | advance => exact advance_step taken
  | record id =>
      rcases Option.map_eq_some_iff.mp taken with ⟨reached, moved, same⟩
      cases same
      unfold DrainLoop.record at moved
      split at moved
      · rename_i found
        cases moved
        exact .recorded found
      · cases moved
  | releasePeer id =>
      rcases Option.map_eq_some_iff.mp taken with ⟨reached, moved, same⟩
      cases same
      unfold DrainLoop.releasePeer at moved
      split at moved
      · rename_i found
        cases moved
        exact .releasedPeer found
      · cases moved
  | releaseGlobal id =>
      change state.releaseGlobal id = some (next, actions) at taken
      unfold DrainLoop.releaseGlobal at taken
      split at taken
      · rename_i found
        cases taken
        exact .releasedGlobal found
      · cases taken

end Inversion

/-! ## The coarse steps are runs of small ones -/

section Refinement

variable {registry : TunnelRegistry PeerId} {loop next : GuardLoop PeerId}
    {actions : List (GuardAction PeerId)}

/-- The events that are not taken apart are single steps. -/
private theorem delegated_logs {event : GuardEvent PeerId}
    (apart : ¬ event.OfTunnel)
    (taken : runGuardLoop registry loop event = some (next, actions)) :
    Logs (runDrainLoop registry) (DrainLoop.start loop) actions
      (DrainLoop.start next) := by
  have delegated : runDrainLoop registry (DrainLoop.start loop) (.loop event) =
      some (DrainLoop.start next, actions) := by
    cases event with
    | incomingStream | task => exact absurd trivial apart
    | _ =>
        change (runGuardLoop registry loop _).map _ = _
        rw [taken]
        rfl
  exact Logs.one delegated

/-- A stream that finds the global semaphore empty, from the peer's permit on:
the permit is taken, and given back after the refusal. -/
private theorem overTotal_logs {peer : PeerId} {connection : Nat}
    {roles : List String} {semaphore : Nat}
    (permitted : 0 < loop.semaphores semaphore) (full : loop.global = 0) :
    Logs (runDrainLoop registry)
      ⟨{ loop with
          semaphores := Function.update loop.semaphores semaphore
            (loop.semaphores semaphore - 1) },
        .reserved peer connection roles semaphore, ∅⟩ []
      (DrainLoop.start loop.denyStream) := by
  have permits : Function.update (Function.update loop.semaphores semaphore
      (loop.semaphores semaphore - 1)) semaphore
        (Function.update loop.semaphores semaphore
          (loop.semaphores semaphore - 1) semaphore + 1) =
            loop.semaphores := by
    rw [Function.update_self, Nat.sub_add_cancel permitted,
      Function.update_idem, Function.update_eq_self]
  have refused : runDrainLoop registry
      ⟨{ loop with
          semaphores := Function.update loop.semaphores semaphore
            (loop.semaphores semaphore - 1) },
        .reserved peer connection roles semaphore, ∅⟩ .advance =
      some (⟨{ loop with
          semaphores := Function.update loop.semaphores semaphore
            (loop.semaphores semaphore - 1) },
        .refusing (some semaphore), ∅⟩, []) := by
    simp [runDrainLoop, DrainLoop.advance, full]
  have counted : runDrainLoop registry
      ⟨{ loop with
          semaphores := Function.update loop.semaphores semaphore
            (loop.semaphores semaphore - 1) },
        .refusing (some semaphore), ∅⟩ .advance =
      some (⟨{ loop.denyStream with
          semaphores := Function.update loop.semaphores semaphore
            (loop.semaphores semaphore - 1) },
        .returning semaphore, ∅⟩, []) := rfl
  have gaveBack : runDrainLoop registry
      ⟨{ loop.denyStream with
          semaphores := Function.update loop.semaphores semaphore
            (loop.semaphores semaphore - 1) },
        .returning semaphore, ∅⟩ .advance =
      some (DrainLoop.start loop.denyStream, []) := by
    change some _ = some _
    simp only [DrainLoop.giveBack, permits]
    rfl
  exact Logs.cons refused (Logs.cons counted (Logs.one gaveBack))

/-- A stream that finds a global permit, from the peer's permit on. -/
private theorem spawnServe_logs (registry : TunnelRegistry PeerId)
    (loop : GuardLoop PeerId) (peer : PeerId) (connection : Nat)
    (roles : List String) (semaphore : Nat) (spare : ¬ loop.global = 0) :
    Logs (runDrainLoop registry)
      ⟨{ loop with
          semaphores := Function.update loop.semaphores semaphore
            (loop.semaphores semaphore - 1) },
        .reserved peer connection roles semaphore, ∅⟩
      (loop.spawnServe peer connection roles semaphore).2
      (DrainLoop.start
        (loop.spawnServe peer connection roles semaphore).1) := by
  have permitted : runDrainLoop registry
      ⟨{ loop with
          semaphores := Function.update loop.semaphores semaphore
            (loop.semaphores semaphore - 1) },
        .reserved peer connection roles semaphore, ∅⟩ .advance =
      some (⟨{ loop with
          semaphores := Function.update loop.semaphores semaphore
            (loop.semaphores semaphore - 1)
          global := loop.global - 1 },
        .permitted peer connection roles semaphore, ∅⟩, []) := by
    simp [runDrainLoop, DrainLoop.advance, spare]
  have started : runDrainLoop registry
      ⟨{ loop with
          semaphores := Function.update loop.semaphores semaphore
            (loop.semaphores semaphore - 1)
          global := loop.global - 1 },
        .permitted peer connection roles semaphore, ∅⟩ .advance =
      some (⟨{ loop with
          semaphores := Function.update loop.semaphores semaphore
            (loop.semaphores semaphore - 1)
          global := loop.global - 1
          metrics := loop.metrics.recordTunnelStarted },
        .started peer connection roles semaphore, ∅⟩, []) := rfl
  have spawned : runDrainLoop registry
      ⟨{ loop with
          semaphores := Function.update loop.semaphores semaphore
            (loop.semaphores semaphore - 1)
          global := loop.global - 1
          metrics := loop.metrics.recordTunnelStarted },
        .started peer connection roles semaphore, ∅⟩ .advance =
      some (DrainLoop.start
          (loop.spawnServe peer connection roles semaphore).1,
        (loop.spawnServe peer connection roles semaphore).2) := rfl
  exact Logs.cons permitted (Logs.cons started (Logs.one spawned))

/-- The three steps of a task whose `serve_stream` returned. -/
private theorem ending_logs (registry : TunnelRegistry PeerId)
    (loop : GuardLoop PeerId) (id semaphore : Nat) (outcome : TunnelOutcome) :
    Logs (runDrainLoop registry)
      ⟨loop, .waiting, (∅ : Table Nat EndingTask).insert id
        ⟨semaphore, .returned outcome⟩⟩ [.finished id]
      (DrainLoop.start { loop with
        metrics := loop.metrics.recordTunnelFinished outcome
        semaphores := Function.update loop.semaphores semaphore
          (loop.semaphores semaphore + 1)
        global := loop.global + 1 }) := by
  let ending (stage : EndStage) : Table Nat EndingTask :=
    (∅ : Table Nat EndingTask).insert id ⟨semaphore, stage⟩
  have found : ∀ stage, (ending stage).lookup id = some ⟨semaphore, stage⟩ :=
    fun _ => AList.lookup_insert _
  have moved : ∀ before after,
      (ending before).insert id ⟨semaphore, after⟩ = ending after :=
    fun _ _ => AList.insert_insert _
  have recorded : runDrainLoop registry
      ⟨loop, .waiting, ending (.returned outcome)⟩ (.record id) =
        some (⟨{ loop with
            metrics := loop.metrics.recordTunnelFinished outcome },
          .waiting, ending .recorded⟩, []) := by
    simp only [runDrainLoop, DrainLoop.record, found, moved, Option.map_some]
  have released : runDrainLoop registry
      ⟨{ loop with metrics := loop.metrics.recordTunnelFinished outcome },
        .waiting, ending .recorded⟩ (.releasePeer id) =
        some (⟨DrainLoop.giveBack { loop with
            metrics := loop.metrics.recordTunnelFinished outcome } semaphore,
          .waiting, ending .released⟩, []) := by
    simp only [runDrainLoop, DrainLoop.releasePeer, found, moved,
      Option.map_some]
  have ended : (ending .released).erase id = ∅ := by
    apply AList.ext
    exact List.kerase_cons_eq rfl
  have finished : runDrainLoop registry
      ⟨DrainLoop.giveBack { loop with
          metrics := loop.metrics.recordTunnelFinished outcome } semaphore,
        .waiting, ending .released⟩ (.releaseGlobal id) =
        some (DrainLoop.start { loop with
            metrics := loop.metrics.recordTunnelFinished outcome
            semaphores := Function.update loop.semaphores semaphore
              (loop.semaphores semaphore + 1)
            global := loop.global + 1 }, [.finished id]) := by
    simp only [runDrainLoop, DrainLoop.releaseGlobal, found, ended]
    rfl
  exact Logs.cons recorded (Logs.cons released (Logs.one finished))

/-- A dequeued stream, from the state before to the state after. -/
private theorem acceptStream_logs {connection : Nat}
    (running : loop.running = true) {carrier : Connection PeerId}
    (found : loop.connections[connection]? = some carrier)
    (taken : acceptStream registry loop carrier.peer connection =
      (next, actions)) :
    Logs (runDrainLoop registry) (DrainLoop.start loop) actions
      (DrainLoop.start next) := by
  have dequeued : runDrainLoop registry (DrainLoop.start loop)
      (.loop (.incomingStream connection)) =
        some (⟨loop, .dequeued carrier.peer connection, ∅⟩, []) := by
    simp [runDrainLoop, DrainLoop.dequeue, DrainLoop.start, running, found]
  refine Logs.cons dequeued ?_
  have denied : ∀ refused : GuardLoop PeerId,
      Logs (runDrainLoop registry) ⟨refused, .refusing none, ∅⟩ []
        (DrainLoop.start refused.denyStream) := by
    intro refused
    have counted : runDrainLoop registry ⟨refused, .refusing none, ∅⟩
        .advance = some (DrainLoop.start refused.denyStream, []) := rfl
    exact Logs.one counted
  have reserved : ∀ {after : DrainLoop PeerId}
      {logged : List (GuardAction PeerId)},
      DrainLoop.reserve registry
          ⟨loop, .dequeued carrier.peer connection, ∅⟩ carrier.peer
          connection = (after, logged) →
        runDrainLoop registry ⟨loop, .dequeued carrier.peer connection, ∅⟩
          .advance = some (after, logged) :=
    fun computed => congrArg some computed
  unfold acceptStream at taken
  split at taken
  · rename_i stopping
    cases taken
    have refused : DrainLoop.reserve registry
        ⟨loop, .dequeued carrier.peer connection, ∅⟩ carrier.peer connection =
          (⟨loop, .refusing none, ∅⟩, []) := by
      rw [DrainLoop.reserve, if_pos stopping]
    exact Logs.cons (reserved refused) (denied loop)
  · rename_i serving
    cases session : loop.authenticator.sessionRoles carrier.peer with
    | none =>
        simp only [session] at taken
        cases taken
        have refused : DrainLoop.reserve registry
            ⟨loop, .dequeued carrier.peer connection, ∅⟩ carrier.peer
              connection =
            (⟨loop.disconnectPeerId carrier.peer, .refusing none, ∅⟩,
              [.disconnect carrier.peer]) := by
          simp only [DrainLoop.reserve, if_neg serving, session, silence]
        exact Logs.cons (reserved refused) (denied _)
    | some roles =>
        cases entry : peerSemaphore registry loop carrier.peer with
        | mk entered semaphore =>
            simp only [session, entry] at taken
            split at taken
            · rename_i full
              cases taken
              have refused : DrainLoop.reserve registry
                  ⟨loop, .dequeued carrier.peer connection, ∅⟩ carrier.peer
                    connection = (⟨entered, .refusing none, ∅⟩, []) := by
                simp only [DrainLoop.reserve, if_neg serving, session, entry,
                  if_pos full]
              exact Logs.cons (reserved refused) (denied entered)
            · rename_i permitted
              have held : DrainLoop.reserve registry
                  ⟨loop, .dequeued carrier.peer connection, ∅⟩ carrier.peer
                    connection =
                  (⟨{ entered with
                      semaphores := Function.update entered.semaphores
                        semaphore (entered.semaphores semaphore - 1) },
                    .reserved carrier.peer connection roles semaphore, ∅⟩,
                    []) := by
                simp only [DrainLoop.reserve, if_neg serving, session, entry,
                  if_neg permitted]
              refine Logs.cons (reserved held) ?_
              split at taken
              · rename_i full
                cases taken
                exact overTotal_logs (Nat.pos_of_ne_zero permitted) full
              · rename_i spare
                have spawned := spawnServe_logs registry entered carrier.peer
                  connection roles semaphore spare
                rw [taken] at spawned
                exact spawned

/-- The end of a serve task: returned, counted, and both permits released. -/
private theorem resumeTask_logs {id : Nat} {event : ServeEvent}
    (taken : loop.resumeTask registry id event = some (next, actions)) :
    Logs (runDrainLoop registry) (DrainLoop.start loop) actions
      (DrainLoop.start next) := by
  unfold resumeTask at taken
  split at taken
  · cases taken
  · rename_i task found
    split at taken
    · cases taken
    · rename_i stage done resumed
      cases taken
      have continued : runDrainLoop registry (DrainLoop.start loop)
          (.loop (.task id event)) = some (DrainLoop.start { loop with
            tasks := loop.tasks.insert id { task with stage := stage } },
            done.map (.served id task.peer)) := by
        simp [runDrainLoop, DrainLoop.resume, DrainLoop.start, found, resumed]
      exact Logs.one continued
    · rename_i outcome resumed
      cases taken
      have returned : runDrainLoop registry (DrainLoop.start loop)
          (.loop (.task id event)) =
            some (⟨{ loop with tasks := loop.tasks.erase id }, .waiting,
              (∅ : Table Nat EndingTask).insert id
                ⟨task.semaphore, .returned outcome⟩⟩, []) := by
        simp [runDrainLoop, DrainLoop.resume, DrainLoop.start, found, resumed]
      exact Logs.cons returned (ending_logs registry _ id task.semaphore outcome)

/-- Every run of the guard loop is a run in small steps. -/
theorem runGuardLoop_refined {start finish : GuardLoop PeerId}
    {trace : List (GuardTransition PeerId)}
    (run : Run (runGuardLoop registry) start trace finish) :
    Logs (runDrainLoop registry) (DrainLoop.start start)
      (trace.flatMap Transition.actions) (DrainLoop.start finish) := by
  refine run.refine ?_
  intro state event next actions taken
  cases event with
  | task id event => exact resumeTask_logs taken
  | incomingStream connection =>
      rcases Option.ite_none_right_eq_some.mp taken with ⟨running, same⟩
      rcases Option.map_eq_some_iff.mp same with ⟨carrier, found, accepted⟩
      exact acceptStream_logs running found accepted
  | _ =>
      refine delegated_logs ?_ taken
      exact not_false

end Refinement

end NuxAuth.Core
