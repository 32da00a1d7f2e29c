import Mathlib.Logic.Function.Basic
import NuxAuth.Lib.RecordedRun

/-!
# The local redirections of a Client

A Client process runs one accept loop for each redirection, beside its session
with the Guard.  `forward_listener` relays every local connection,
`forward_unix_listener` those of an authorized user; each relay is a task of
the loop's `JoinSet`, which is joined only once the loop has stopped.  All of
them share one shutdown token.  The process ends with its session, and what
still runs then is dropped.

The clock counts milliseconds.  `select!` takes any branch that is ready, so a
loop whose token is cancelled may still accept before it stops.
-/

namespace NuxAuth.Core

open NuxAuth.Lib.RecordedRun

/-! ## One accept loop -/

/-- A local connection, with what `SO_PEERCRED` tells of its other end. -/
structure LocalConnection where
  number : Nat
  peerCred : Option UInt32
deriving DecidableEq

/-- Whether a relay runs, has returned or was aborted. -/
inductive RelayPhase where
  | running
  | finished
  | aborted
deriving DecidableEq

/-- A task that runs `relay_local`. -/
structure RelayTask where
  connection : LocalConnection
  phase : RelayPhase := .running
  /-- it has left the `JoinSet` -/
  joined : Bool := false
deriving DecidableEq

/-- Where an accept loop stands. -/
inductive ListenStage where
  | selecting
  /-- after a failed accept -/
  | pausing (wake : Nat)
  | draining (deadline : Nat)
  | returned
deriving DecidableEq

/-- An accept loop, and the relays it has spawned. -/
structure ListenTask where
  stage : ListenStage := .selecting
  /-- in the order in which they were spawned -/
  relays : List RelayTask := []

/-- What an accept loop waits for. -/
inductive ListenEvent where
  /-- the branch of the shutdown token -/
  | stopped
  | accepted (connection : LocalConnection)
  | acceptFailed
  | resumed
  | relayEnded (index : Nat)
  | joined (index : Nat)
  | drained
  | graceElapsed
deriving DecidableEq

/-- A local connection is relayed, or it is closed at once. -/
inductive ListenAction where
  | relays (service : String) (connection : LocalConnection)
  | refuses (connection : LocalConnection)
deriving DecidableEq

/-- The sleep after a failed accept, in milliseconds. -/
def acceptPause : Nat := 100

/-- `peer_uid_authorized`: without credentials nobody is. -/
def peerUidAuthorized (peer : LocalConnection) (allowedUids : List UInt32) :
    Bool :=
  match peer.peerCred with
  | some uid => allowedUids.contains uid
  | none => false

/-- The relay returns by itself. -/
def RelayTask.finish (relay : RelayTask) : RelayTask :=
  { relay with phase := .finished }

/-- The loop has taken note of its end. -/
def RelayTask.join (relay : RelayTask) : RelayTask :=
  { relay with joined := true }

/-- A relay that still runs is cut. -/
def RelayTask.abort (relay : RelayTask) : RelayTask :=
  if relay.phase = .running then { relay with phase := .aborted } else relay

namespace ListenTask

/-- The `JoinSet` is dropped, with every task that it still holds. -/
def dropRelays (task : ListenTask) : ListenTask :=
  { stage := .returned, relays := task.relays.map RelayTask.abort }

/-- Both accept loops; they differ in the connections that they admit. -/
def acceptLoop (service : String) (admits : LocalConnection → Bool)
    (grace clock : Nat) (cancelled : Bool) (task : ListenTask) :
    ListenEvent → Option (ListenTask × List ListenAction)
  | .stopped =>
      if task.stage = .selecting ∧ cancelled then
        some ({ task with stage := .draining (clock + grace) }, [])
      else
        none
  | .accepted connection =>
      if task.stage = .selecting then
        if admits connection then
          some ({ task with
            relays := task.relays ++ [{ connection := connection }] },
            [.relays service connection])
        else
          some (task, [.refuses connection])
      else
        none
  | .acceptFailed =>
      if task.stage = .selecting then
        some ({ task with stage := .pausing (clock + acceptPause) }, [])
      else
        none
  | .resumed =>
      match task.stage with
      | .pausing wake =>
          if wake ≤ clock then
            some ({ task with stage := .selecting }, [])
          else
            none
      | _ => none
  | .relayEnded index =>
      if (task.relays[index]?).any fun relay => relay.phase = .running then
        some ({ task with
          relays := task.relays.modify index RelayTask.finish }, [])
      else
        none
  | .joined index =>
      match task.stage with
      | .draining _ =>
          if (task.relays[index]?).any fun relay =>
              relay.phase ≠ .running ∧ relay.joined = false then
            some ({ task with
              relays := task.relays.modify index RelayTask.join }, [])
          else
            none
      | _ => none
  | .drained =>
      match task.stage with
      | .draining _ =>
          if task.relays.all RelayTask.joined then
            some (task.dropRelays, [])
          else
            none
      | _ => none
  | .graceElapsed =>
      match task.stage with
      | .draining deadline =>
          if deadline ≤ clock then
            some (task.dropRelays, [])
          else
            none
      | _ => none

end ListenTask

/-- `forward_listener`: every local connection is relayed. -/
def forwardListener (service : String) (grace clock : Nat)
    (cancelled : Bool) (task : ListenTask) (event : ListenEvent) :
    Option (ListenTask × List ListenAction) :=
  task.acceptLoop service (fun _ => true) grace clock cancelled event

/-- `forward_unix_listener`: only listed users are relayed. -/
def forwardUnixListener (service : String) (allowedUids : List UInt32)
    (grace clock : Nat) (cancelled : Bool) (task : ListenTask)
    (event : ListenEvent) : Option (ListenTask × List ListenAction) :=
  task.acceptLoop service (fun peer => peerUidAuthorized peer allowedUids)
    grace clock cancelled event

/-! ## The process -/

/-- An option `--forward` or `--forward-unix`. -/
inductive Redirection where
  | tcp (service : String)
  | unix (service : String) (allowedUids : List UInt32)

namespace Redirection

/-- The service that the connections are relayed to. -/
def service : Redirection → String
  | .tcp service => service
  | .unix service _ => service

/-- Which local connections are relayed. -/
def admits : Redirection → LocalConnection → Bool
  | .tcp _, _ => true
  | .unix _ allowedUids, peer => peerUidAuthorized peer allowedUids

/-- One step of the accept loop of a redirection. -/
def run (redirection : Redirection) (grace clock : Nat) (cancelled : Bool)
    (task : ListenTask) (event : ListenEvent) :
    Option (ListenTask × List ListenAction) :=
  match redirection with
  | .tcp service => forwardListener service grace clock cancelled task event
  | .unix service allowedUids =>
      forwardUnixListener service allowedUids grace clock cancelled task event

theorem run_eq (redirection : Redirection) (grace clock : Nat)
    (cancelled : Bool) (task : ListenTask) (event : ListenEvent) :
    redirection.run grace clock cancelled task event =
      task.acceptLoop redirection.service redirection.admits grace clock
        cancelled event := by
  cases redirection with
  | tcp service => rfl
  | unix service allowedUids => rfl

end Redirection

/-- As far as `run_client_session` keeps the process alive. -/
inductive SessionStage where
  | serving
  | draining (deadline : Nat)
  | ended
deriving DecidableEq

/-- The clock in milliseconds, the token, the session and the accept loops of a
client. -/
structure ClientProcess (Listener : Type) where
  clock : Nat := 0
  /-- when the shutdown token was cancelled -/
  cancelledAt : Option Nat := none
  session : SessionStage := .serving
  tasks : Listener → ListenTask := fun _ => {}

/-- What can happen in the process of a client. -/
inductive ProcessEvent (Listener : Type) where
  | elapsed (milliseconds : Nat)
  | cancelled
  | sessionStopped
  | sessionEnded
  | listens (listener : Listener) (event : ListenEvent)
deriving DecidableEq

variable {Listener : Type} [DecidableEq Listener]

/-- One recorded step of the process. -/
abbrev ProcessTransition (Listener : Type) :=
  Transition (ClientProcess Listener) (ProcessEvent Listener)
    (Listener × ListenAction)

/-- One step of any of the tasks of a Client process. -/
def runClient (redirections : Listener → Redirection) (grace : Nat) :
    Step (ClientProcess Listener) (ProcessEvent Listener)
      (Listener × ListenAction) :=
  fun process event =>
    match event with
    | .elapsed milliseconds =>
        some ({ process with clock := process.clock + milliseconds }, [])
    | .cancelled =>
        some ({ process with
          cancelledAt := some (process.cancelledAt.getD process.clock) }, [])
    | .sessionStopped =>
        if process.session = .serving ∧ process.cancelledAt.isSome then
          some ({ process with
            session := .draining (process.clock + grace) }, [])
        else
          none
    | .sessionEnded =>
        match process.session with
        | .draining deadline =>
            if deadline ≤ process.clock then
              some ({ process with
                session := .ended
                tasks := fun listener => (process.tasks listener).dropRelays },
                [])
            else
              none
        | _ => none
    | .listens listener event =>
        ((redirections listener).run grace process.clock
          process.cancelledAt.isSome (process.tasks listener) event).map
            fun (task, actions) =>
              ({ process with
                tasks := Function.update process.tasks listener task },
                actions.map fun action => (listener, action))

/-! ## What an accept loop can do -/

/-- Everything a step of an accept loop can do. -/
inductive ListenMove (redirection : Redirection) (grace clock : Nat)
    (cancelled : Bool) (task : ListenTask) :
    ListenEvent → ListenTask → List ListenAction → Prop where
  | stopped (selecting : task.stage = .selecting)
      (token : cancelled = true) :
      ListenMove redirection grace clock cancelled task .stopped
        { task with stage := .draining (clock + grace) } []
  | admitted {connection : LocalConnection}
      (selecting : task.stage = .selecting)
      (admitted : redirection.admits connection = true) :
      ListenMove redirection grace clock cancelled task (.accepted connection)
        { task with relays := task.relays ++ [{ connection := connection }] }
        [.relays redirection.service connection]
  | refused {connection : LocalConnection}
      (selecting : task.stage = .selecting)
      (refused : redirection.admits connection = false) :
      ListenMove redirection grace clock cancelled task (.accepted connection)
        task [.refuses connection]
  | failed (selecting : task.stage = .selecting) :
      ListenMove redirection grace clock cancelled task .acceptFailed
        { task with stage := .pausing (clock + acceptPause) } []
  | resumed {wake : Nat} (pausing : task.stage = .pausing wake)
      (awake : wake ≤ clock) :
      ListenMove redirection grace clock cancelled task .resumed
        { task with stage := .selecting } []
  | relayEnded {index : Nat} {relay : RelayTask}
      (found : task.relays[index]? = some relay)
      (running : relay.phase = .running) :
      ListenMove redirection grace clock cancelled task (.relayEnded index)
        { task with relays := task.relays.modify index RelayTask.finish } []
  | joined {index deadline : Nat} {relay : RelayTask}
      (draining : task.stage = .draining deadline)
      (found : task.relays[index]? = some relay)
      (ended : relay.phase ≠ .running) :
      ListenMove redirection grace clock cancelled task (.joined index)
        { task with relays := task.relays.modify index RelayTask.join } []
  | drained {deadline : Nat} (draining : task.stage = .draining deadline)
      (empty : ∀ relay ∈ task.relays, relay.joined = true) :
      ListenMove redirection grace clock cancelled task .drained
        task.dropRelays []
  | graceElapsed {deadline : Nat}
      (draining : task.stage = .draining deadline)
      (elapsed : deadline ≤ clock) :
      ListenMove redirection grace clock cancelled task .graceElapsed
        task.dropRelays []

theorem run_move {redirection : Redirection} {grace clock : Nat}
    {cancelled : Bool} {task next : ListenTask} {event : ListenEvent}
    {actions : List ListenAction}
    (taken : redirection.run grace clock cancelled task event =
      some (next, actions)) :
    ListenMove redirection grace clock cancelled task event next actions := by
  rw [Redirection.run_eq] at taken
  cases event with
  | stopped =>
      rcases Option.ite_none_right_eq_some.mp taken with
        ⟨⟨selecting, token⟩, same⟩
      cases same
      exact .stopped selecting token
  | accepted connection =>
      rcases Option.ite_none_right_eq_some.mp taken with ⟨selecting, decided⟩
      cases admits : redirection.admits connection with
      | true =>
          rw [if_pos admits] at decided
          cases decided
          exact .admitted selecting admits
      | false =>
          rw [if_neg (by simp [admits])] at decided
          cases decided
          exact .refused selecting admits
  | acceptFailed =>
      rcases Option.ite_none_right_eq_some.mp taken with ⟨selecting, same⟩
      cases same
      exact .failed selecting
  | resumed =>
      simp only [ListenTask.acceptLoop] at taken
      split at taken
      · rename_i wake pausing
        rcases Option.ite_none_right_eq_some.mp taken with ⟨awake, same⟩
        cases same
        exact .resumed pausing awake
      · cases taken
  | relayEnded index =>
      rcases Option.ite_none_right_eq_some.mp taken with ⟨running, same⟩
      cases same
      rcases (Option.any_eq_true _ _).mp running with ⟨relay, found, phase⟩
      exact .relayEnded found (of_decide_eq_true phase)
  | joined index =>
      simp only [ListenTask.acceptLoop] at taken
      split at taken
      · rename_i deadline draining
        rcases Option.ite_none_right_eq_some.mp taken with ⟨ended, same⟩
        cases same
        rcases (Option.any_eq_true _ _).mp ended with ⟨relay, found, phase⟩
        exact .joined draining found (of_decide_eq_true phase).1
      · cases taken
  | drained =>
      simp only [ListenTask.acceptLoop] at taken
      split at taken
      · rename_i deadline draining
        rcases Option.ite_none_right_eq_some.mp taken with ⟨empty, same⟩
        cases same
        exact .drained draining (List.all_eq_true.mp empty)
      · cases taken
  | graceElapsed =>
      simp only [ListenTask.acceptLoop] at taken
      split at taken
      · rename_i deadline draining
        rcases Option.ite_none_right_eq_some.mp taken with ⟨elapsed, same⟩
        cases same
        exact .graceElapsed draining elapsed
      · cases taken

/-! ## The relays of a loop -/

theorem mem_modify {Element : Type} {elements : List Element} {index : Nat}
    {change : Element → Element} {element : Element}
    (member : element ∈ elements.modify index change) :
    element ∈ elements ∨
      ∃ old, elements[index]? = some old ∧ element = change old := by
  rcases List.mem_iff_getElem?.mp member with ⟨position, found⟩
  rw [List.getElem?_modify] at found
  rcases Option.map_eq_some_iff.mp found with ⟨old, before, same⟩
  split at same
  · rename_i here
    exact Or.inr ⟨old, here ▸ before, same.symm⟩
  · exact Or.inl (same ▸ List.mem_of_getElem? before)

theorem map_modify_of_keeps {Element Value : Type} {elements : List Element}
    {index : Nat} {change : Element → Element} {view : Element → Value}
    (keeps : ∀ element, view (change element) = view element) :
    (elements.modify index change).map view = elements.map view := by
  apply List.ext_getElem?
  intro position
  rw [List.getElem?_map, List.getElem?_map, List.getElem?_modify]
  cases elements[position]? with
  | none => rfl
  | some element =>
      by_cases here : index = position
      · simp [here, keeps]
      · simp [here]

@[simp]
theorem RelayTask.abort_connection (relay : RelayTask) :
    relay.abort.connection = relay.connection := by
  unfold RelayTask.abort
  split <;> rfl

@[simp]
theorem RelayTask.abort_joined (relay : RelayTask) :
    relay.abort.joined = relay.joined := by
  unfold RelayTask.abort
  split <;> rfl

theorem RelayTask.abort_not_running (relay : RelayTask) :
    relay.abort.phase ≠ .running := by
  unfold RelayTask.abort
  split
  · simp
  · assumption

/-- Only a relay that still ran is aborted. -/
theorem RelayTask.abort_of_not_running {relay : RelayTask}
    (ended : relay.phase ≠ .running) : relay.abort = relay :=
  if_neg ended

/-- The loop may still accept. -/
def ListenStage.Listening : ListenStage → Prop
  | .selecting => True
  | .pausing _ => True
  | _ => False

/-- The token was cancelled, and a whole grace period has passed since. -/
def GraceOver (grace : Nat) (cancelledAt : Option Nat) (clock : Nat) : Prop :=
  ∃ since, cancelledAt = some since ∧ since + grace ≤ clock

theorem GraceOver.later {grace clock : Nat} {cancelledAt : Option Nat}
    (elapsed : GraceOver grace cancelledAt clock) {later : Nat}
    (after : clock ≤ later) : GraceOver grace cancelledAt later := by
  rcases elapsed with ⟨since, same, passed⟩
  exact ⟨since, same, Nat.le_trans passed after⟩

/-- To cancel a token once more changes nothing. -/
theorem GraceOver.cancel {grace clock : Nat} {cancelledAt : Option Nat}
    (elapsed : GraceOver grace cancelledAt clock) (now : Nat) :
    GraceOver grace (some (cancelledAt.getD now)) clock := by
  rcases elapsed with ⟨since, rfl, passed⟩
  exact ⟨since, rfl, passed⟩

/-- What an accept loop keeps, whatever happens around it. -/
structure Listens (grace clock : Nat) (cancelledAt : Option Nat)
    (admitted : List LocalConnection) (task : ListenTask) : Prop where
  relayed : task.relays.map RelayTask.connection = admitted
  draining : ∀ deadline, task.stage = .draining deadline →
    GraceOver grace cancelledAt deadline
  aborted : ∀ relay ∈ task.relays, relay.phase = .aborted →
    task.stage = .returned ∧ GraceOver grace cancelledAt clock
  returned : task.stage = .returned →
    ∀ relay ∈ task.relays, relay.phase ≠ .running
  joined : ∀ relay ∈ task.relays, relay.joined = true →
    relay.phase ≠ .running ∧ ¬ task.stage.Listening

/-- What an event adds to the connections that are relayed. -/
def Redirection.adds (redirection : Redirection) :
    ListenEvent → List LocalConnection
  | .accepted connection => [connection].filter redirection.admits
  | _ => []

section Loop

variable {redirection : Redirection} {grace clock : Nat}
    {cancelledAt : Option Nat} {admitted : List LocalConnection}
    {task next : ListenTask} {event : ListenEvent}
    {actions : List ListenAction}

theorem listens_start : Listens grace 0 none [] {} where
  relayed := rfl
  draining := by rintro deadline ⟨⟩
  aborted := by simp
  returned := by rintro ⟨⟩
  joined := by simp

/-- Time passes. -/
theorem Listens.later
    (inv : Listens grace clock cancelledAt admitted task)
    {later : Nat} (after : clock ≤ later) :
    Listens grace later cancelledAt admitted task :=
  { inv with
    aborted := by
      intro relay member aborted
      rcases inv.aborted relay member aborted with ⟨returned, elapsed⟩
      exact ⟨returned, elapsed.later after⟩ }

/-- The token is cancelled, perhaps once more. -/
theorem Listens.cancel
    (inv : Listens grace clock cancelledAt admitted task) :
    Listens grace clock (some (cancelledAt.getD clock)) admitted task :=
  { inv with
    draining := fun deadline draining =>
      (inv.draining deadline draining).cancel clock
    aborted := by
      intro relay member aborted
      rcases inv.aborted relay member aborted with ⟨returned, elapsed⟩
      exact ⟨returned, elapsed.cancel clock⟩ }

/-- The loop ends with nothing running, or with the grace period. -/
theorem Listens.dropRelays
    (inv : Listens grace clock cancelledAt admitted task)
    (allowed : (∀ relay ∈ task.relays, relay.phase ≠ .running) ∨
      GraceOver grace cancelledAt clock) :
    Listens grace clock cancelledAt admitted task.dropRelays := by
  refine ⟨?_, by rintro deadline ⟨⟩, ?_, ?_, ?_⟩
  · rw [← inv.relayed]
    simp [ListenTask.dropRelays]
  · intro relay member aborted
    refine ⟨rfl, ?_⟩
    rcases List.mem_map.mp member with ⟨old, before, rfl⟩
    rcases allowed with ended | elapsed
    · rw [RelayTask.abort_of_not_running (ended old before)] at aborted
      exact (inv.aborted old before aborted).2
    · exact elapsed
  · intro _ relay member
    rcases List.mem_map.mp member with ⟨old, before, rfl⟩
    exact old.abort_not_running
  · intro relay member joined
    rcases List.mem_map.mp member with ⟨old, before, rfl⟩
    exact ⟨old.abort_not_running, id⟩

/-- A change of one relay that only ends it or takes it off the set. -/
theorem Listens.modify
    (inv : Listens grace clock cancelledAt admitted task)
    {index : Nat} {change : RelayTask → RelayTask} {relay : RelayTask}
    (found : task.relays[index]? = some relay)
    (keeps : ∀ relay, (change relay).connection = relay.connection)
    (ended : (change relay).phase ≠ .running)
    (aborted : (change relay).phase = .aborted → relay.phase = .aborted)
    (joined : (change relay).joined = true →
      relay.joined = true ∨ ¬ task.stage.Listening) :
    Listens grace clock cancelledAt admitted
      { task with relays := task.relays.modify index change } := by
  have member := List.mem_of_getElem? found
  have cases : ∀ other ∈ task.relays.modify index change,
      other ∈ task.relays ∨ other = change relay := by
    intro other here
    rcases mem_modify here with same | ⟨old, before, rfl⟩
    · exact Or.inl same
    · rw [found] at before
      cases before
      exact Or.inr rfl
  exact { inv with
    relayed := (map_modify_of_keeps keeps).trans inv.relayed
    aborted := by
      intro other here phase
      rcases cases other here with old | rfl
      · exact inv.aborted other old phase
      · exact inv.aborted relay member (aborted phase)
    returned := by
      intro returned other here
      rcases cases other here with old | rfl
      · exact inv.returned returned other old
      · exact ended
    joined := by
      intro other here left
      rcases cases other here with old | rfl
      · exact inv.joined other old left
      · refine ⟨ended, ?_⟩
        rcases joined left with before | late
        · exact (inv.joined relay member before).2
        · exact late }

theorem Listens.step
    (inv : Listens grace clock cancelledAt admitted task)
    (past : ∀ since, cancelledAt = some since → since ≤ clock)
    (move : ListenMove redirection grace clock cancelledAt.isSome task event
      next actions) :
    Listens grace clock cancelledAt (admitted ++ redirection.adds event)
      next := by
  cases move with
  | stopped selecting token =>
      rcases Option.isSome_iff_exists.mp token with ⟨since, cancelled⟩
      simp only [Redirection.adds, List.append_nil]
      exact { inv with
        draining := by
          rintro deadline ⟨⟩
          exact ⟨since, cancelled,
            Nat.add_le_add_right (past since cancelled) grace⟩
        aborted := by
          intro relay member aborted
          have returned := (inv.aborted relay member aborted).1
          rw [selecting] at returned
          cases returned
        returned := by rintro ⟨⟩
        joined := by
          intro relay member joined
          exact ⟨(inv.joined relay member joined).1, id⟩ }
  | @admitted connection selecting admits =>
      have added : redirection.adds (.accepted connection) = [connection] := by
        simp [Redirection.adds, admits]
      have cases : ∀ relay ∈ task.relays ++ [{ connection := connection }],
          relay ∈ task.relays ∨ relay = { connection := connection } := by
        intro relay member
        simpa using member
      rw [added]
      exact { inv with
        relayed := by
          rw [List.map_append, inv.relayed]
          rfl
        aborted := by
          intro relay member aborted
          rcases cases relay member with old | rfl
          · exact inv.aborted relay old aborted
          · cases aborted
        returned := by
          intro returned
          simp only [selecting] at returned
          cases returned
        joined := by
          intro relay member joined
          rcases cases relay member with old | rfl
          · exact inv.joined relay old joined
          · cases joined }
  | @refused connection selecting refused =>
      have added : redirection.adds (.accepted connection) = [] := by
        simp [Redirection.adds, refused]
      rw [added, List.append_nil]
      exact inv
  | failed selecting =>
      simp only [Redirection.adds, List.append_nil]
      exact { inv with
        draining := by rintro deadline ⟨⟩
        aborted := by
          intro relay member aborted
          have returned := (inv.aborted relay member aborted).1
          rw [selecting] at returned
          cases returned
        returned := by rintro ⟨⟩
        joined := by
          intro relay member joined
          have late := (inv.joined relay member joined).2
          rw [selecting] at late
          exact absurd trivial late }
  | resumed pausing awake =>
      simp only [Redirection.adds, List.append_nil]
      exact { inv with
        draining := by rintro deadline ⟨⟩
        aborted := by
          intro relay member aborted
          have returned := (inv.aborted relay member aborted).1
          rw [pausing] at returned
          cases returned
        returned := by rintro ⟨⟩
        joined := by
          intro relay member joined
          have late := (inv.joined relay member joined).2
          rw [pausing] at late
          exact absurd trivial late }
  | relayEnded found running =>
      simp only [Redirection.adds, List.append_nil]
      refine inv.modify found (fun _ => rfl) ?_ ?_ Or.inl
      · simp [RelayTask.finish]
      · simp [RelayTask.finish]
  | joined draining found ended =>
      simp only [Redirection.adds, List.append_nil]
      refine inv.modify found (fun _ => rfl) ended id fun _ => Or.inr ?_
      rw [draining]
      exact id
  | drained draining empty =>
      simp only [Redirection.adds, List.append_nil]
      exact inv.dropRelays
        (Or.inl fun relay member => (inv.joined relay member
          (empty relay member)).1)
  | graceElapsed draining elapsed =>
      simp only [Redirection.adds, List.append_nil]
      exact inv.dropRelays (Or.inr ((inv.draining _ draining).later elapsed))

end Loop

/-! ## Over whole runs of the process -/

/-- The event ends a call of `accept`, with a connection or with an error. -/
def ListenEvent.Tries : ListenEvent → Prop
  | .accepted _ => True
  | .acceptFailed => True
  | _ => False

/-- What an accept loop sees of an event of the process. -/
def ProcessEvent.seenBy (listener : Listener) :
    ProcessEvent Listener → Option ListenEvent
  | .listens other event => if other = listener then some event else none
  | _ => none

/-- What happened at one listener. -/
def eventsAt (listener : Listener) (trace : List (ProcessTransition Listener)) :
    List ListenEvent :=
  trace.filterMap fun transition => transition.event.seenBy listener

/-- The local connection that is accepted. -/
def ListenEvent.connection? : ListenEvent → Option LocalConnection
  | .accepted connection => some connection
  | _ => none

/-- The connections that one listener accepted, oldest first. -/
def acceptedAt (listener : Listener)
    (trace : List (ProcessTransition Listener)) : List LocalConnection :=
  (eventsAt listener trace).filterMap ListenEvent.connection?

/-- What one listener did with them. -/
def actionsAt (listener : Listener)
    (trace : List (ProcessTransition Listener)) : List ListenAction :=
  (trace.flatMap Transition.actions).filterMap fun (other, action) =>
    if other = listener then some action else none

/-- A connection is relayed or refused. -/
def Redirection.treats (redirection : Redirection)
    (connection : LocalConnection) : ListenAction :=
  if redirection.admits connection then
    .relays redirection.service connection
  else
    .refuses connection

/-- What holds of the process after every run. -/
structure ProcessKept (redirections : Listener → Redirection) (grace : Nat)
    (trace : List (ProcessTransition Listener))
    (process : ClientProcess Listener) : Prop where
  past : ∀ since, process.cancelledAt = some since → since ≤ process.clock
  listens : ∀ listener, Listens grace process.clock process.cancelledAt
    ((acceptedAt listener trace).filter (redirections listener).admits)
    (process.tasks listener)
  treated : ∀ listener, actionsAt listener trace =
    (acceptedAt listener trace).map (redirections listener).treats
  session : ∀ deadline, process.session = .draining deadline →
    GraceOver grace process.cancelledAt deadline
  ended : process.session = .ended →
    GraceOver grace process.cancelledAt process.clock ∧
      ∀ listener, (process.tasks listener).stage = .returned

section Runs

variable {redirections : Listener → Redirection} {grace : Nat}
    {process next : ClientProcess Listener}
    {event : ProcessEvent Listener}
    {actions : List (Listener × ListenAction)}
    {trace : List (ProcessTransition Listener)} {listener : Listener}

theorem processKept_start : ProcessKept redirections grace [] {} where
  past := by rintro since ⟨⟩
  listens := fun _ => listens_start
  treated := fun _ => rfl
  session := by rintro deadline ⟨⟩
  ended := by rintro ⟨⟩

theorem Redirection.adds_eq (redirection : Redirection)
    (event : ListenEvent) :
    redirection.adds event =
      event.connection?.toList.filter redirection.admits := by
  cases event with
  | accepted connection => rfl
  | _ => rfl

/-- What was seen so far, once more has happened. -/
theorem eventsAt_snoc (last : ProcessTransition Listener) :
    eventsAt listener (trace ++ [last]) =
      eventsAt listener trace ++ (last.event.seenBy listener).toList := by
  rw [eventsAt, List.filterMap_append]
  cases seen : last.event.seenBy listener with
  | none => simp [eventsAt, seen]
  | some event => simp [eventsAt, seen]

theorem acceptedAt_snoc (last : ProcessTransition Listener) :
    acceptedAt listener (trace ++ [last]) =
      acceptedAt listener trace ++
        ((last.event.seenBy listener).bind ListenEvent.connection?).toList := by
  rw [acceptedAt, eventsAt_snoc, List.filterMap_append]
  cases seen : last.event.seenBy listener with
  | none => rfl
  | some event =>
      cases made : event.connection? with
      | none => simp [made, acceptedAt]
      | some connection => simp [made, acceptedAt]

/-- A step that no accept loop takes. -/
theorem ProcessKept.around
    (inv : ProcessKept redirections grace trace process)
    (elsewhere : ∀ listener, event.seenBy listener = none)
    (past : ∀ since, next.cancelledAt = some since → since ≤ next.clock)
    (listens : ∀ listener admitted,
      Listens grace process.clock process.cancelledAt admitted
          (process.tasks listener) →
        Listens grace next.clock next.cancelledAt admitted
          (next.tasks listener))
    (session : ∀ deadline, next.session = .draining deadline →
      GraceOver grace next.cancelledAt deadline)
    (ended : next.session = .ended →
      GraceOver grace next.cancelledAt next.clock ∧
        ∀ listener, (next.tasks listener).stage = .returned) :
    ProcessKept redirections grace (trace ++ [⟨process, event, [], next⟩])
      next := by
  have accepted : ∀ listener,
      acceptedAt listener (trace ++ [⟨process, event, [], next⟩]) =
        acceptedAt listener trace := by
    intro listener
    rw [acceptedAt_snoc, elsewhere]
    exact List.append_nil _
  refine ⟨past, ?_, ?_, session, ended⟩
  · intro listener
    rw [accepted]
    exact listens listener _ (inv.listens listener)
  · intro listener
    rw [accepted, ← inv.treated, actionsAt, List.flatMap_append]
    simp [actionsAt]

theorem ListenMove.treats {redirection : Redirection} {grace clock : Nat}
    {cancelled : Bool} {task next : ListenTask} {event : ListenEvent}
    {actions : List ListenAction}
    (move : ListenMove redirection grace clock cancelled task event next
      actions) :
    actions = event.connection?.toList.map redirection.treats := by
  cases move with
  | admitted selecting admits =>
      simp [ListenEvent.connection?, Redirection.treats, admits]
  | refused selecting refused =>
      simp [ListenEvent.connection?, Redirection.treats, refused]
  | _ => rfl

theorem ListenMove.returned {redirection : Redirection} {grace clock : Nat}
    {cancelled : Bool} {task next : ListenTask} {event : ListenEvent}
    {actions : List ListenAction}
    (move : ListenMove redirection grace clock cancelled task event next
      actions) (returned : task.stage = .returned) :
    next.stage = .returned := by
  cases move with
  | relayEnded found running => exact returned
  | drained draining empty => rfl
  | graceElapsed draining elapsed => rfl
  | stopped selecting token => cases returned.symm.trans selecting
  | admitted selecting admits => exact returned
  | refused selecting refused => exact returned
  | failed selecting => cases returned.symm.trans selecting
  | resumed pausing awake => cases returned.symm.trans pausing
  | joined draining found ended => exact returned

/-- A step of one accept loop. -/
theorem ProcessKept.within
    (inv : ProcessKept redirections grace trace process)
    {here : Listener} {event : ListenEvent} {task : ListenTask}
    {actions : List ListenAction}
    (move : ListenMove (redirections here) grace process.clock
      process.cancelledAt.isSome (process.tasks here) event task actions) :
    ProcessKept redirections grace
      (trace ++ [⟨process, .listens here event,
        actions.map fun action => (here, action),
        { process with tasks := Function.update process.tasks here task }⟩])
      { process with tasks := Function.update process.tasks here task } := by
  refine ⟨inv.past, ?_, ?_, inv.session, ?_⟩
  · intro listener
    have before := inv.listens listener
    by_cases same : here = listener
    · cases same
      have after := before.step inv.past move
      rw [Redirection.adds_eq, ← List.filter_append] at after
      simpa [acceptedAt_snoc, ProcessEvent.seenBy] using after
    · have other : listener ≠ here := fun equal => same equal.symm
      simpa [acceptedAt_snoc, ProcessEvent.seenBy, same, other] using before
  · intro listener
    have before := inv.treated listener
    rw [actionsAt, List.flatMap_append, List.flatMap_singleton,
      List.filterMap_append, acceptedAt_snoc, List.map_append]
    rw [actionsAt] at before
    rw [before]
    congr 1
    by_cases same : here = listener
    · cases same
      rw [move.treats]
      simp [ProcessEvent.seenBy, Function.comp_def]
    · simp [ProcessEvent.seenBy, same]
  · intro ended
    rcases inv.ended ended with ⟨elapsed, stopped⟩
    refine ⟨elapsed, ?_⟩
    intro listener
    have returned := stopped listener
    by_cases same : listener = here
    · cases same
      simpa using move.returned returned
    · simpa [same] using returned

theorem ProcessKept.step
    (inv : ProcessKept redirections grace trace process)
    (taken : runClient redirections grace process event =
      some (next, actions)) :
    ProcessKept redirections grace
      (trace ++ [⟨process, event, actions, next⟩]) next := by
  cases event with
  | elapsed milliseconds =>
      cases taken
      have after := Nat.le_add_right process.clock milliseconds
      refine inv.around (fun _ => rfl) ?_ ?_ inv.session ?_
      · intro since cancelled
        exact Nat.le_trans (inv.past since cancelled) after
      · intro listener admitted listens
        exact listens.later after
      · intro ended
        exact ⟨(inv.ended ended).1.later after, (inv.ended ended).2⟩
  | cancelled =>
      cases taken
      refine inv.around (fun _ => rfl) ?_ ?_ ?_ ?_
      · rintro since ⟨⟩
        cases cancelled : process.cancelledAt with
        | none => exact Nat.le_refl process.clock
        | some moment => exact inv.past moment cancelled
      · intro listener admitted listens
        exact listens.cancel
      · intro deadline draining
        exact (inv.session deadline draining).cancel _
      · intro ended
        exact ⟨(inv.ended ended).1.cancel _, (inv.ended ended).2⟩
  | sessionStopped =>
      rcases Option.ite_none_right_eq_some.mp taken with
        ⟨⟨serving, token⟩, same⟩
      cases same
      refine inv.around (fun _ => rfl) inv.past (fun _ _ listens => listens)
        ?_ (by rintro ⟨⟩)
      rintro deadline ⟨⟩
      rcases Option.isSome_iff_exists.mp token with ⟨since, cancelled⟩
      exact ⟨since, cancelled,
        Nat.add_le_add_right (inv.past since cancelled) grace⟩
  | sessionEnded =>
      simp only [runClient] at taken
      split at taken
      · rename_i deadline draining
        rcases Option.ite_none_right_eq_some.mp taken with ⟨elapsed, same⟩
        cases same
        have passed := (inv.session deadline draining).later elapsed
        refine inv.around (fun _ => rfl) inv.past ?_ (by rintro other ⟨⟩) ?_
        · intro listener admitted listens
          exact listens.dropRelays (Or.inr passed)
        · exact fun _ => ⟨passed, fun _ => rfl⟩
      · cases taken
  | listens here event =>
      rcases Option.map_eq_some_iff.mp taken with ⟨⟨task, logged⟩, ran, same⟩
      cases same
      exact inv.within (run_move ran)

theorem processKept_of_run
    (run : Run (runClient redirections grace) {} trace process) :
    ProcessKept redirections grace trace process :=
  run.history processKept_start fun _ _ _ _ _ _ inv taken => inv.step taken

theorem ListenMove.silent {redirection : Redirection} {grace clock : Nat}
    {cancelled : Bool} {task next : ListenTask} {event : ListenEvent}
    {actions : List ListenAction}
    (move : ListenMove redirection grace clock cancelled task event next
      actions) (stopped : ¬ task.stage.Listening) :
    event.connection? = none ∧ ¬ next.stage.Listening := by
  have late : ∀ {stage : ListenStage}, stage.Listening →
      task.stage ≠ stage := by
    rintro stage listening same
    exact stopped (same ▸ listening)
  cases move with
  | stopped selecting token => exact absurd selecting (late trivial)
  | admitted selecting admits => exact absurd selecting (late trivial)
  | refused selecting refused => exact absurd selecting (late trivial)
  | failed selecting => exact absurd selecting (late trivial)
  | resumed pausing awake => exact absurd pausing (late trivial)
  | relayEnded found running => exact ⟨rfl, stopped⟩
  | joined draining found ended => exact ⟨rfl, stopped⟩
  | drained draining empty => exact ⟨rfl, id⟩
  | graceElapsed draining elapsed => exact ⟨rfl, id⟩

/-- The loop has stopped, and nothing was accepted since. -/
def Retired (listener : Listener) (since : List (ProcessTransition Listener))
    (process : ClientProcess Listener) : Prop :=
  acceptedAt listener since = [] ∧
    ¬ (process.tasks listener).stage.Listening

theorem retired_of_stopped {start : ClientProcess Listener}
    (run : Run (runClient redirections grace) start trace process)
    (stopped : ¬ (start.tasks listener).stage.Listening) :
    Retired listener trace process := by
  have initial : Retired listener [] start := ⟨rfl, stopped⟩
  refine run.history initial ?_
  rintro trace process event next actions - ⟨nothing, stopped⟩ taken
  rw [Retired, acceptedAt_snoc, nothing]
  cases event with
  | sessionStopped =>
      rcases Option.ite_none_right_eq_some.mp taken with ⟨-, same⟩
      cases same
      exact ⟨rfl, stopped⟩
  | sessionEnded =>
      simp only [runClient] at taken
      split at taken
      · rcases Option.ite_none_right_eq_some.mp taken with ⟨-, same⟩
        cases same
        exact ⟨rfl, id⟩
      · cases taken
  | listens here event =>
      rcases Option.map_eq_some_iff.mp taken with ⟨⟨task, logged⟩, ran, same⟩
      cases same
      by_cases same : here = listener
      · cases same
        rcases (run_move ran).silent stopped with ⟨silent, later⟩
        simpa [ProcessEvent.seenBy, silent] using later
      · have other : listener ≠ here := fun equal => same equal.symm
        simpa [ProcessEvent.seenBy, same, other] using stopped
  | _ =>
      cases taken
      exact ⟨rfl, stopped⟩

/-- A loop that failed to accept at a time selects again a pause later. -/
structure Pauses (failed clock : Nat) (task : ListenTask) : Prop where
  selecting : task.stage = .selecting → failed + acceptPause ≤ clock
  pausing : ∀ wake, task.stage = .pausing wake → failed + acceptPause ≤ wake

theorem Pauses.step {redirection : Redirection} {clock failed : Nat}
    {cancelled : Bool} {task next : ListenTask} {event : ListenEvent}
    {actions : List ListenAction} (pauses : Pauses failed clock task)
    (move : ListenMove redirection grace clock cancelled task event next
      actions) :
    Pauses failed clock next := by
  cases move with
  | stopped here token => exact ⟨by rintro ⟨⟩, by rintro wake ⟨⟩⟩
  | admitted here admits => exact ⟨pauses.selecting, pauses.pausing⟩
  | refused here refused => exact pauses
  | failed here =>
      refine ⟨by rintro ⟨⟩, ?_⟩
      rintro wake ⟨⟩
      exact Nat.le_trans (pauses.selecting here) (Nat.le_add_right _ _)
  | resumed here awake =>
      exact ⟨fun _ => Nat.le_trans (pauses.pausing _ here) awake,
        by rintro wake ⟨⟩⟩
  | relayEnded found running => exact ⟨pauses.selecting, pauses.pausing⟩
  | joined draining found ended => exact ⟨pauses.selecting, pauses.pausing⟩
  | drained draining empty => exact ⟨by rintro ⟨⟩, by rintro wake ⟨⟩⟩
  | graceElapsed draining elapsed =>
      exact ⟨by rintro ⟨⟩, by rintro wake ⟨⟩⟩

theorem Pauses.runClient {failed : Nat}
    (pauses : Pauses failed process.clock (process.tasks listener))
    (taken : runClient redirections grace process event =
      some (next, actions)) :
    Pauses failed next.clock (next.tasks listener) := by
  cases event with
  | elapsed milliseconds =>
      cases taken
      exact ⟨fun selecting => Nat.le_trans (pauses.selecting selecting)
        (Nat.le_add_right _ _), pauses.pausing⟩
  | cancelled =>
      cases taken
      exact pauses
  | sessionStopped =>
      rcases Option.ite_none_right_eq_some.mp taken with ⟨-, same⟩
      cases same
      exact pauses
  | sessionEnded =>
      simp only [runClient] at taken
      split at taken
      · rcases Option.ite_none_right_eq_some.mp taken with ⟨-, same⟩
        cases same
        exact ⟨by rintro ⟨⟩, by rintro wake ⟨⟩⟩
      · cases taken
  | listens here event =>
      rcases Option.map_eq_some_iff.mp taken with ⟨⟨task, logged⟩, ran, same⟩
      cases same
      by_cases same : listener = here
      · cases same
        simpa using pauses.step (run_move ran)
      · simpa [same] using pauses

theorem pauses_of_run {start : ClientProcess Listener} {failed : Nat}
    (run : Run (runClient redirections grace) start trace process)
    (initial : Pauses failed start.clock (start.tasks listener)) :
    Pauses failed process.clock (process.tasks listener) := by
  induction run with
  | start => exact initial
  | snoc prior taken pauses => exact pauses.runClient taken

/-- The step of one loop, as the process takes it. -/
theorem listenMove_of_taken {here : Listener} {listened : ListenEvent}
    (taken : runClient redirections grace process (.listens here listened) =
      some (next, actions)) :
    ∃ logged, ListenMove (redirections here) grace process.clock
        process.cancelledAt.isSome (process.tasks here) listened
        (next.tasks here) logged ∧ next.clock = process.clock := by
  rcases Option.map_eq_some_iff.mp taken with ⟨⟨task, logged⟩, ran, same⟩
  cases same
  exact ⟨logged, by simpa using run_move ran, rfl⟩

/-- A loop that tries to accept is selecting. -/
theorem ListenMove.selecting {redirection : Redirection} {clock : Nat}
    {cancelled : Bool} {task after : ListenTask} {tried : ListenEvent}
    {logged : List ListenAction}
    (move : ListenMove redirection grace clock cancelled task tried after
      logged) (tries : tried.Tries) : task.stage = .selecting := by
  cases move with
  | admitted selecting admits => exact selecting
  | refused selecting refused => exact selecting
  | failed selecting => exact selecting
  | _ => exact tries.elim

end Runs

/-! ## The results -/

section Results

variable {redirections : Listener → Redirection} {grace : Nat}
    {process : ClientProcess Listener}
    {trace : List (ProcessTransition Listener)}

/--
Every local connection that a loop accepts is relayed or refused, once and in
order, as its redirection says; nothing is accepted after the loop has stopped,
and after a failed accept a whole pause passes before the loop tries again.
-/
theorem redirections_relay_exactly
    (run : Run (runClient redirections grace) {} trace process)
    (listener : Listener) :
    actionsAt listener trace =
        (acceptedAt listener trace).map (redirections listener).treats ∧
      (process.tasks listener).relays.map RelayTask.connection =
        (acceptedAt listener trace).filter (redirections listener).admits ∧
      (∀ before last after, trace = before ++ last :: after →
        last.event = .listens listener .stopped →
          acceptedAt listener after = []) ∧
      ∀ before failed between again after tried,
        trace = before ++ failed :: (between ++ again :: after) →
          failed.event = .listens listener .acceptFailed →
            again.event = .listens listener tried → tried.Tries →
              failed.before.clock + acceptPause ≤ again.before.clock := by
  have kept := processKept_of_run run
  refine ⟨kept.treated listener, (kept.listens listener).relayed, ?_, ?_⟩
  · rintro before last after rfl stops
    rcases run.transition with ⟨-, taken, rest⟩
    refine (retired_of_stopped rest ?_).1
    rw [stops] at taken
    rcases listenMove_of_taken taken with ⟨logged, move, -⟩
    generalize last.after.tasks listener = stopped at move ⊢
    cases move with
    | stopped selecting token => exact id
  · rintro before failed between again after tried rfl fails retries tries
    rcases run.transition with ⟨-, taken, rest⟩
    rcases rest.transition with ⟨meanwhile, retaken, -⟩
    rw [fails] at taken
    rcases listenMove_of_taken taken with ⟨logged, move, clock⟩
    have paused : Pauses failed.before.clock failed.after.clock
        (failed.after.tasks listener) := by
      generalize failed.after.tasks listener = asleep at move ⊢
      cases move with
      | failed selecting =>
          refine ⟨by rintro ⟨⟩, ?_⟩
          rintro wake ⟨⟩
          exact Nat.le_refl _
    rw [retries] at retaken
    rcases listenMove_of_taken retaken with ⟨others, again, -⟩
    exact (pauses_of_run meanwhile paused).selecting (again.selecting tries)

/--
A shutdown keeps its promise to the relays: none is cut before a whole grace
period since the token was cancelled, and none outlives its loop or the
process.  Until then the set of a loop holds every task it ever spawned.
-/
theorem relays_keep_grace
    (run : Run (runClient redirections grace) {} trace process)
    (listener : Listener) :
    (∀ relay ∈ (process.tasks listener).relays, relay.phase = .aborted →
      GraceOver grace process.cancelledAt process.clock) ∧
    ((process.tasks listener).stage = .returned →
      (∀ relay ∈ (process.tasks listener).relays, relay.phase = .finished) ∨
        (∀ relay ∈ (process.tasks listener).relays,
          relay.phase ≠ .running) ∧
            GraceOver grace process.cancelledAt process.clock) ∧
    (process.session = .ended →
      (process.tasks listener).stage = .returned ∧
        GraceOver grace process.cancelledAt process.clock) ∧
    ((process.tasks listener).stage.Listening →
      ∀ relay ∈ (process.tasks listener).relays, relay.joined = false) := by
  have kept := processKept_of_run run
  have listens := kept.listens listener
  refine ⟨?_, ?_, ?_, ?_⟩
  · intro relay member aborted
    exact (listens.aborted relay member aborted).2
  · intro returned
    by_cases finished : ∀ relay ∈ (process.tasks listener).relays,
        relay.phase = .finished
    · exact Or.inl finished
    · rcases not_forall₂.mp finished with ⟨relay, member, other⟩
      have quiet := listens.returned returned
      refine Or.inr ⟨quiet, ?_⟩
      have aborted : relay.phase = .aborted := by
        cases phase : relay.phase with
        | running => exact absurd phase (quiet relay member)
        | finished => exact absurd phase other
        | aborted => rfl
      exact (listens.aborted relay member aborted).2
  · intro ended
    exact ⟨(kept.ended ended).2 listener, (kept.ended ended).1⟩
  · intro listening relay member
    by_contra joined
    exact (listens.joined relay member (by simpa using joined)).2 listening

end Results

/-! ## A small process

Two redirections: a port, and a socket for one user.
-/

namespace SmallRedirections

/-- A port for everybody, and a socket for one user. -/
def redirections : Bool → Redirection
  | false => .tcp "db"
  | true => .unix "db" [1000]

/-- The second connection is still relayed when the grace period ends. -/
def events : List (ProcessEvent Bool) := [
  .listens false (.accepted ⟨0, none⟩), .listens true (.accepted ⟨1, some 1000⟩),
  .listens true (.accepted ⟨2, some 0⟩), .listens true (.accepted ⟨3, none⟩),
  .listens true .acceptFailed, .cancelled, .listens false .stopped,
  .listens false (.relayEnded 0), .listens false (.joined 0),
  .listens false .drained, .sessionStopped, .elapsed 100,
  .listens true .resumed, .listens true .stopped, .elapsed 30000,
  .sessionEnded]

/-- One connection was admitted and two were not, and the relay was cut when the
grace period was over. -/
def checks (trace : List (ProcessTransition Bool))
    (process : ClientProcess Bool) : Bool :=
  acceptedAt true trace = [⟨1, some 1000⟩, ⟨2, some 0⟩, ⟨3, none⟩] &&
    (process.tasks true).relays = [⟨⟨1, some 1000⟩, .aborted, false⟩] &&
      process.cancelledAt = some 0 && process.clock = 30100

theorem redirections_relay_exactly_small :
    ∃ (trace : List (ProcessTransition Bool)) (process : ClientProcess Bool),
      Run (runClient redirections 30000) {} trace process ∧
      actionsAt true trace = [.relays "db" ⟨1, some 1000⟩,
        .refuses ⟨2, some 0⟩, .refuses ⟨3, none⟩] := by
  have computed : (execute (runClient redirections 30000) {} events).any
      (fun result => checks result.1 result.2) = true := by
    decide +kernel
  rcases exists_run_of_any computed with ⟨trace, process, run, -, observed⟩
  simp only [checks, Bool.and_eq_true, decide_eq_true_eq] at observed
  rcases observed with ⟨⟨⟨accepted, -⟩, -⟩, -⟩
  refine ⟨trace, process, run, ?_⟩
  rw [(redirections_relay_exactly run true).1, accepted]
  rfl

theorem relays_keep_grace_small :
    ∃ (trace : List (ProcessTransition Bool)) (process : ClientProcess Bool),
      Run (runClient redirections 30000) {} trace process ∧
      process.clock = 30100 ∧
      GraceOver 30000 process.cancelledAt process.clock := by
  have computed : (execute (runClient redirections 30000) {} events).any
      (fun result => checks result.1 result.2) = true := by
    decide +kernel
  rcases exists_run_of_any computed with ⟨trace, process, run, -, observed⟩
  simp only [checks, Bool.and_eq_true, decide_eq_true_eq] at observed
  rcases observed with ⟨⟨⟨-, relays⟩, -⟩, clock⟩
  refine ⟨trace, process, run, clock, ?_⟩
  refine (relays_keep_grace run true).1 ⟨⟨1, some 1000⟩, .aborted, false⟩ ?_ rfl
  rw [relays]
  exact List.mem_singleton_self _

end SmallRedirections

end NuxAuth.Core
