import NuxAuth.Core.GuardTables

/-!
# The cap on the streams of one peer

A peer's permits are drawn from the semaphore its table entry names, and the
entry goes with the last connection or with a revocation.  The tasks keep their
permits of the old semaphore, so a peer that comes back draws from a fresh one
while they still run.

As long as a fresh semaphore is only entered for a peer without running tasks,
the permits left and the running tasks add up to the cap.
-/

namespace NuxAuth.Core

open NuxAuth.Lib.FiniteTable
open NuxAuth.Lib.RecordedRun
open GuardLoop GuardAuthenticator

variable {PeerId : Type} [DecidableEq PeerId]

namespace GuardLoop

/-- The task serves the peer. -/
def ofPeer (peer : PeerId) (task : ServeTask PeerId) : Bool :=
  task.peer = peer

/-- The serve tasks of the peer that were spawned and have not finished. -/
def unfinished (loop : GuardLoop PeerId) (peer : PeerId) : Nat :=
  tally (fun _ => ofPeer peer) loop.tasks

end GuardLoop

/-! ## Whose permits a semaphore hands out -/

/-- Every semaphore in use was created for one peer. -/
structure SemaphoresOwned (loop : GuardLoop PeerId) : Prop where
  entered : ∀ peer semaphore, loop.perPeer.lookup peer = some semaphore →
    semaphore < loop.nextSemaphore
  held : ∀ id task, loop.tasks.lookup id = some task →
    task.semaphore < loop.nextSemaphore
  distinct : ∀ peer other semaphore,
    loop.perPeer.lookup peer = some semaphore →
      loop.perPeer.lookup other = some semaphore → peer = other
  own : ∀ peer semaphore, loop.perPeer.lookup peer = some semaphore →
    ∀ id task, loop.tasks.lookup id = some task →
      task.semaphore = semaphore → task.peer = peer

/-- Forgetting table entries and keeping the tasks keeps the ownership. -/
theorem SemaphoresOwned.forget {loop next : GuardLoop PeerId}
    (owned : SemaphoresOwned loop)
    (fewer : ∀ peer semaphore, next.perPeer.lookup peer = some semaphore →
      loop.perPeer.lookup peer = some semaphore)
    (number : next.nextSemaphore = loop.nextSemaphore)
    (sameTasks : next.tasks = loop.tasks) :
    SemaphoresOwned next := by
  constructor
  · intro peer semaphore entry
    rw [number]
    exact owned.entered peer semaphore (fewer peer semaphore entry)
  · intro id task present
    rw [sameTasks] at present
    rw [number]
    exact owned.held id task present
  · intro peer other semaphore entry otherEntry
    exact owned.distinct peer other semaphore (fewer _ _ entry)
      (fewer _ _ otherEntry)
  · intro peer semaphore entry id task present
    rw [sameTasks] at present
    exact owned.own peer semaphore (fewer _ _ entry) id task present

theorem SemaphoresOwned.enter {registry : TunnelRegistry PeerId}
    {loop entered : GuardLoop PeerId} {peer : PeerId} {semaphore : Nat}
    (owned : SemaphoresOwned loop)
    (reserved : peerSemaphore registry loop peer = (entered, semaphore)) :
    SemaphoresOwned entered := by
  rcases peerSemaphore_cases reserved with ⟨-, rfl⟩ | ⟨absent, rfl, rfl⟩
  · exact owned
  · have split : ∀ other handle,
        (loop.perPeer.insert peer loop.nextSemaphore).lookup other =
            some handle →
          (other = peer ∧ handle = loop.nextSemaphore) ∨
            loop.perPeer.lookup other = some handle := by
      intro other handle entry
      rw [lookup_insert_eq_ite] at entry
      split at entry
      · rename_i same
        exact Or.inl ⟨same, (Option.some.inj entry).symm⟩
      · exact Or.inr entry
    constructor
    · intro other handle entry
      rcases split other handle entry with ⟨-, rfl⟩ | old
      · exact Nat.lt_succ_self _
      · exact Nat.lt_succ_of_lt (owned.entered other handle old)
    · intro id task present
      exact Nat.lt_succ_of_lt (owned.held id task present)
    · intro left right handle leftEntry rightEntry
      rcases split left handle leftEntry with ⟨rfl, fresh⟩ | leftOld
      · rcases split right handle rightEntry with ⟨rfl, -⟩ | rightOld
        · rfl
        · exact absurd fresh (owned.entered right handle rightOld).ne
      · rcases split right handle rightEntry with ⟨rfl, fresh⟩ | rightOld
        · exact absurd fresh (owned.entered left handle leftOld).ne
        · exact owned.distinct left right handle leftOld rightOld
    · intro other handle entry id task present same
      rcases split other handle entry with ⟨rfl, fresh⟩ | old
      · exact absurd (same.trans fresh) (owned.held id task present).ne
      · exact owned.own other handle old id task present same

/-- A new task draws on the entry of its own peer. -/
theorem SemaphoresOwned.spawn {loop : GuardLoop PeerId} {peer : PeerId}
    {semaphore : Nat} (owned : SemaphoresOwned loop)
    (entry : loop.perPeer.lookup peer = some semaphore) (connection : Nat)
    (roles : List String) :
    SemaphoresOwned (loop.spawnServe peer connection roles semaphore).1 := by
  have split : ∀ id task,
      (loop.tasks.insert loop.nextTask
        ⟨peer, connection, roles, semaphore, .readingHeader []⟩).lookup id =
          some task →
        (task.peer = peer ∧ task.semaphore = semaphore) ∨
          loop.tasks.lookup id = some task := by
    intro id task present
    rw [lookup_insert_eq_ite] at present
    split at present
    · cases present
      exact Or.inl ⟨rfl, rfl⟩
    · exact Or.inr present
  constructor
  · exact owned.entered
  · intro id task present
    rcases split id task present with ⟨-, same⟩ | old
    · rw [same]
      exact owned.entered peer semaphore entry
    · exact owned.held id task old
  · exact owned.distinct
  · intro other handle otherEntry id task present same
    rcases split id task present with ⟨samePeer, drawn⟩ | old
    · rw [samePeer]
      rw [drawn] at same
      rw [same] at entry
      exact owned.distinct peer other handle entry otherEntry
    · exact owned.own other handle otherEntry id task old same

/-- Tasks that only change their stage, or end, keep the ownership. -/
theorem SemaphoresOwned.retask {loop next : GuardLoop PeerId}
    (owned : SemaphoresOwned loop) (sameEntries : next.perPeer = loop.perPeer)
    (number : next.nextSemaphore = loop.nextSemaphore)
    (fewer : ∀ id task, next.tasks.lookup id = some task →
      ∃ old, loop.tasks.lookup id = some old ∧ old.peer = task.peer ∧
        old.semaphore = task.semaphore) :
    SemaphoresOwned next := by
  constructor
  · intro peer semaphore entry
    rw [sameEntries] at entry
    rw [number]
    exact owned.entered peer semaphore entry
  · intro id task present
    rcases fewer id task present with ⟨old, before, -, same⟩
    rw [number, ← same]
    exact owned.held id old before
  · intro peer other semaphore entry otherEntry
    rw [sameEntries] at entry otherEntry
    exact owned.distinct peer other semaphore entry otherEntry
  · intro peer semaphore entry id task present drawn
    rcases fewer id task present with ⟨old, before, samePeer, same⟩
    rw [sameEntries] at entry
    rw [← samePeer]
    exact owned.own peer semaphore entry id old before (same.trans drawn)

/-! ## The balance of one peer -/

/-- The permits left and the running tasks of a peer add up to the cap. -/
structure Balanced (cap : Nat) (peer : PeerId) (loop : GuardLoop PeerId) :
    Prop where
  capped : loop.unfinished peer ≤ cap
  balance : ∀ semaphore, loop.perPeer.lookup peer = some semaphore →
    loop.semaphores semaphore + loop.unfinished peer = cap
  drawn : ∀ semaphore, loop.perPeer.lookup peer = some semaphore →
    ∀ id task, loop.tasks.lookup id = some task → task.peer = peer →
      task.semaphore = semaphore

section Balance

variable {cap : Nat} {peer : PeerId} {loop next : GuardLoop PeerId}

theorem Balanced.forget (balanced : Balanced cap peer loop)
    (fewer : ∀ semaphore, next.perPeer.lookup peer = some semaphore →
      loop.perPeer.lookup peer = some semaphore)
    (samePermits : next.semaphores = loop.semaphores)
    (sameTasks : next.tasks = loop.tasks) :
    Balanced cap peer next := by
  have sameCount : next.unfinished peer = loop.unfinished peer := by
    rw [unfinished, sameTasks]
    rfl
  constructor
  · rw [sameCount]
    exact balanced.capped
  · intro semaphore entry
    rw [samePermits, sameCount]
    exact balanced.balance semaphore (fewer semaphore entry)
  · intro semaphore entry id task present
    rw [sameTasks] at present
    exact balanced.drawn semaphore (fewer semaphore entry) id task present

/-- Entering a fresh semaphore is safe for a peer without running tasks. -/
theorem Balanced.enter {registry : TunnelRegistry PeerId}
    {entered : GuardLoop PeerId} {carrier : PeerId} {semaphore : Nat}
    (balanced : Balanced registry.maxStreamsPerPeer peer loop)
    (owned : SemaphoresOwned loop)
    (reserved : peerSemaphore registry loop carrier = (entered, semaphore))
    (drained : carrier = peer → loop.perPeer.lookup peer = none →
      loop.unfinished peer = 0) :
    Balanced registry.maxStreamsPerPeer peer entered := by
  rcases peerSemaphore_cases reserved with ⟨-, rfl⟩ | ⟨absent, rfl, rfl⟩
  · exact balanced
  · by_cases same : peer = carrier
    · subst same
      have none := drained rfl absent
      have entry : (loop.perPeer.insert peer loop.nextSemaphore).lookup peer =
          some loop.nextSemaphore := AList.lookup_insert _
      constructor
      · exact balanced.capped
      · intro handle found
        have fresh : loop.nextSemaphore = handle :=
          Option.some.inj (entry.symm.trans found)
        subst fresh
        change Function.update loop.semaphores loop.nextSemaphore _
          loop.nextSemaphore + loop.unfinished peer = _
        rw [Function.update_self, none]
        rfl
      · intro handle found id task present samePeer
        have counted := (tally_eq_zero_iff _ _).mp none id task present
        rw [ofPeer, samePeer] at counted
        simp at counted
    · have kept : ∀ handle,
          (loop.perPeer.insert carrier loop.nextSemaphore).lookup peer =
              some handle →
            loop.perPeer.lookup peer = some handle := by
        intro handle found
        rw [lookup_insert_eq_ite, if_neg same] at found
        exact found
      constructor
      · exact balanced.capped
      · intro handle found
        have old := kept handle found
        change Function.update loop.semaphores loop.nextSemaphore _ handle +
          loop.unfinished peer = _
        rw [Function.update_of_ne (owned.entered peer handle old).ne]
        exact balanced.balance handle old
      · intro handle found
        exact balanced.drawn handle (kept handle found)

theorem Balanced.spawn {carrier : PeerId} {semaphore : Nat}
    (balanced : Balanced cap peer loop) (owned : SemaphoresOwned loop)
    (numbered : TasksNumbered loop)
    (entry : loop.perPeer.lookup carrier = some semaphore)
    (permitted : 0 < loop.semaphores semaphore) (connection : Nat)
    (roles : List String) :
    Balanced cap peer
      (loop.spawnServe carrier connection roles semaphore).1 := by
  have unused : loop.tasks.lookup loop.nextTask = none := by
    cases present : loop.tasks.lookup loop.nextTask with
    | none => rfl
    | some task => exact absurd (numbered _ task present) (Nat.lt_irrefl _)
  have count : (loop.spawnServe carrier connection roles
      semaphore).1.unfinished peer =
        loop.unfinished peer + if carrier = peer then 1 else 0 := by
    refine (tally_insert_new _ _ unused).trans ?_
    simp [ofPeer, unfinished]
  have tasks : ∀ id task,
      (loop.spawnServe carrier connection roles semaphore).1.tasks.lookup id =
          some task →
        (task.peer = carrier ∧ task.semaphore = semaphore) ∨
          loop.tasks.lookup id = some task := by
    intro id task present
    change (loop.tasks.insert loop.nextTask _).lookup id = some task at present
    rw [lookup_insert_eq_ite] at present
    split at present
    · cases present
      exact Or.inl ⟨rfl, rfl⟩
    · exact Or.inr present
  by_cases same : carrier = peer
  · subst same
    rw [if_pos rfl] at count
    have before := balanced.balance semaphore entry
    have own : ∀ handle, loop.perPeer.lookup carrier = some handle →
        semaphore = handle :=
      fun handle found => Option.some.inj (entry.symm.trans found)
    constructor
    · omega
    · intro handle found
      rw [← own handle found, count]
      change Function.update loop.semaphores semaphore _ semaphore + _ = cap
      rw [Function.update_self]
      omega
    · intro handle found id task present samePeer
      rcases tasks id task present with ⟨-, drawn⟩ | old
      · rw [drawn]
        exact own handle found
      · exact balanced.drawn handle found id task old samePeer
  · rw [if_neg same, Nat.add_zero] at count
    constructor
    · rw [count]
      exact balanced.capped
    · intro handle found
      have apart : handle ≠ semaphore := by
        rintro rfl
        exact same (owned.distinct carrier peer handle entry found)
      rw [count]
      change Function.update loop.semaphores semaphore _ handle + _ = cap
      rw [Function.update_of_ne apart]
      exact balanced.balance handle found
    · intro handle found id task present samePeer
      rcases tasks id task present with ⟨other, -⟩ | old
      · exact absurd (other.symm.trans samePeer) same
      · exact balanced.drawn handle found id task old samePeer

/-- A task that goes on still holds its permit. -/
theorem Balanced.resume {id : Nat} {task : ServeTask PeerId}
    (balanced : Balanced cap peer loop)
    (found : loop.tasks.lookup id = some task) (stage : ServeStage) :
    Balanced cap peer
      { loop with
        tasks := loop.tasks.insert id { task with stage := stage } } := by
  have count : unfinished { loop with
      tasks := loop.tasks.insert id { task with stage := stage } } peer =
        loop.unfinished peer :=
    tally_insert_same _ _ found rfl
  constructor
  · rw [count]
    exact balanced.capped
  · intro semaphore entry
    rw [count]
    exact balanced.balance semaphore entry
  · intro semaphore entry other resumed present samePeer
    change (loop.tasks.insert id _).lookup other = some resumed at present
    rw [lookup_insert_eq_ite] at present
    split at present
    · cases present
      exact balanced.drawn semaphore entry id task found samePeer
    · exact balanced.drawn semaphore entry other resumed present samePeer

/-- A task that ends gives its permit back where it was drawn. -/
theorem Balanced.finish {id : Nat} {task : ServeTask PeerId}
    (balanced : Balanced cap peer loop) (owned : SemaphoresOwned loop)
    (found : loop.tasks.lookup id = some task) (metrics : Metrics) :
    Balanced cap peer
      { loop with
        metrics := metrics
        tasks := loop.tasks.erase id
        semaphores := Function.update loop.semaphores task.semaphore
          (loop.semaphores task.semaphore + 1)
        global := loop.global + 1 } := by
  have count : tally (fun _ => ofPeer peer) (loop.tasks.erase id) +
      (if ofPeer peer task then 1 else 0) = loop.unfinished peer :=
    tally_erase_add _ _ found
  have fewer : ∀ other left, (loop.tasks.erase id).lookup other = some left →
      loop.tasks.lookup other = some left := by
    intro other left present
    rw [lookup_erase_eq_ite] at present
    exact (Option.ite_none_left_eq_some.mp present).2
  constructor
  · change tally (fun _ => ofPeer peer) (loop.tasks.erase id) ≤ cap
    have before := balanced.capped
    omega
  · intro semaphore entry
    change Function.update loop.semaphores task.semaphore _ semaphore +
      tally (fun _ => ofPeer peer) (loop.tasks.erase id) = cap
    have before := balanced.balance semaphore entry
    by_cases samePeer : task.peer = peer
    · have drawn := balanced.drawn semaphore entry id task found samePeer
      rw [if_pos (by simpa [ofPeer] using samePeer)] at count
      rw [drawn, Function.update_self]
      omega
    · have apart : semaphore ≠ task.semaphore := by
        intro same
        exact samePeer (owned.own peer semaphore entry id task found same.symm)
      rw [if_neg (by simpa [ofPeer] using samePeer)] at count
      rw [Function.update_of_ne apart]
      omega
  · intro semaphore entry other left present
    exact balanced.drawn semaphore entry other left (fewer other left present)

end Balance

/-! ## The cap over whole runs -/

variable [PeerIdentity PeerId]

/-- A stream of the peer passes the check of its session while the peer has no
semaphore.  The semaphore is made before the global cap is asked, which may still
refuse the stream. -/
def EntersSemaphore (peer : PeerId) (loop : GuardLoop PeerId)
    (event : GuardEvent PeerId) : Prop :=
  ∃ connection carrier roles,
    event = .incomingStream connection ∧
      loop.connections[connection]? = some carrier ∧ carrier.peer = peer ∧
        loop.shutdownDeadline = none ∧
          loop.authenticator.sessionRoles peer = some roles ∧
            loop.perPeer.lookup peer = none

/-- The ownership, the numbering and the balance, as one invariant. -/
structure WithinCap (cap : Nat) (peer : PeerId) (loop : GuardLoop PeerId) :
    Prop where
  owned : SemaphoresOwned loop
  numbered : TasksNumbered loop
  balanced : Balanced cap peer loop

theorem SemaphoresOwned.step {registry : TunnelRegistry PeerId}
    {loop next : GuardLoop PeerId} {event : GuardEvent PeerId}
    {actions : List (GuardAction PeerId)} (owned : SemaphoresOwned loop)
    (step : GuardStep registry loop event next actions) :
    SemaphoresOwned next := by
  have revocation : ∀ {before : GuardLoop PeerId} {peers : List PeerId},
      before.perPeer = loop.perPeer →
        before.nextSemaphore = loop.nextSemaphore →
          before.tasks = loop.tasks →
            Revocation before next peers actions → SemaphoresOwned next := by
    intro before peers sameEntries sameNumber sameTasks revoked
    rcases revoked.frame with ⟨-, -, number, tasks, -, -⟩
    refine owned.forget ?_ (number.trans sameNumber) (tasks.trans sameTasks)
    intro other semaphore entry
    rw [revoked.perPeer] at entry
    rw [← sameEntries]
    exact (Option.ite_none_left_eq_some.mp entry).2
  cases step with
  | closedLast found last =>
      refine owned.forget ?_ rfl rfl
      intro other semaphore entry
      rw [lookup_erase_eq_ite] at entry
      exact (Option.ite_none_left_eq_some.mp entry).2
  | streamOverCap found serving authorized reserved full =>
      exact (owned.enter reserved).forget (fun _ _ => id) rfl rfl
  | streamSpawned found serving authorized reserved permitted =>
      have own := (peerSemaphore_perPeer reserved _).trans (if_pos rfl)
      exact (owned.enter reserved).spawn own _ _
  | revoked revokedPeer now =>
      exact revocation rfl rfl rfl (revokePeers_revocation loop [revokedPeer])
  | reloaded newWhitelist now =>
      exact @revocation (loop.replaceWhitelist newWhitelist) _ rfl rfl rfl
        (revokePeers_revocation _ _)
  | taskContinued found resumed =>
      rename_i resumedId old resumption stage done
      refine owned.retask ?_ ?_ ?_
      · rfl
      · rfl
      intro id task present
      change AList.lookup id (AList.insert _ _ loop.tasks) = some task
        at present
      rw [lookup_insert_eq_ite] at present
      split at present
      · rename_i same
        cases present
        exact ⟨old, same ▸ found, rfl, rfl⟩
      · exact ⟨task, present, rfl, rfl⟩
  | taskEnded found resumed =>
      refine owned.retask ?_ ?_ ?_
      · rfl
      · rfl
      intro id task present
      change AList.lookup id (AList.erase _ loop.tasks) = some task at present
      rw [lookup_erase_eq_ite] at present
      exact ⟨task, (Option.ite_none_left_eq_some.mp present).2, rfl, rfl⟩
  | _ => exact owned.forget (fun _ _ => id) rfl rfl

omit [PeerIdentity PeerId] in
theorem semaphoresOwned_start (authenticator : GuardAuthenticator PeerId)
    (registry : TunnelRegistry PeerId) (control : Bool) (metrics : Metrics)
    (connections : List (Connection PeerId)) :
    SemaphoresOwned (GuardLoop.start authenticator registry control metrics
      connections) := by
  constructor
  · intro peer semaphore entry
    cases entry
  · intro id task present
    cases present
  · intro peer other semaphore entry
    cases entry
  · intro peer semaphore entry
    cases entry

theorem WithinCap.step {registry : TunnelRegistry PeerId}
    {loop next : GuardLoop PeerId} {event : GuardEvent PeerId}
    {actions : List (GuardAction PeerId)} {peer : PeerId}
    (within : WithinCap registry.maxStreamsPerPeer peer loop)
    (step : GuardStep registry loop event next actions)
    (drained : EntersSemaphore peer loop event → loop.unfinished peer = 0) :
    WithinCap registry.maxStreamsPerPeer peer next := by
  rcases within with ⟨owned, numbered, balanced⟩
  refine ⟨owned.step step, numbered.step step, ?_⟩
  have revocation : ∀ {before : GuardLoop PeerId} {peers : List PeerId},
      before.perPeer = loop.perPeer → before.semaphores = loop.semaphores →
        before.tasks = loop.tasks → Revocation before next peers actions →
          Balanced registry.maxStreamsPerPeer peer next := by
    intro before peers sameEntries samePermits sameTasks revoked
    rcases revoked.frame with ⟨-, permits, -, tasks, -, -⟩
    refine balanced.forget ?_ (permits.trans samePermits)
      (tasks.trans sameTasks)
    intro semaphore entry
    rw [revoked.perPeer] at entry
    rw [← sameEntries]
    exact (Option.ite_none_left_eq_some.mp entry).2
  cases step with
  | closedLast found last =>
      refine balanced.forget ?_ rfl rfl
      intro semaphore entry
      rw [lookup_erase_eq_ite] at entry
      exact (Option.ite_none_left_eq_some.mp entry).2
  | streamOverCap found serving authorized reserved full =>
      refine (balanced.enter owned reserved ?_).forget (fun _ => id) rfl rfl
      rintro rfl absent
      exact drained ⟨_, _, _, rfl, found, rfl, serving, authorized, absent⟩
  | streamSpawned found serving authorized reserved permitted =>
      rename_i connection carrier roles reservedLoop semaphore
      have balance := balanced.enter owned reserved ?_
      · have own := (peerSemaphore_perPeer reserved _).trans (if_pos rfl)
        have enteredNumbered : TasksNumbered reservedLoop := by
          intro id task present
          rw [peerSemaphore_tasks reserved] at present
          rw [peerSemaphore_nextTask reserved]
          exact numbered id task present
        exact balance.spawn (owned.enter reserved) enteredNumbered own permitted
          _ _
      · rintro rfl absent
        exact drained ⟨_, _, _, rfl, found, rfl, serving, authorized, absent⟩
  | revoked revokedPeer now =>
      exact revocation rfl rfl rfl (revokePeers_revocation loop [revokedPeer])
  | reloaded newWhitelist now =>
      exact @revocation (loop.replaceWhitelist newWhitelist) _ rfl rfl rfl
        (revokePeers_revocation _ _)
  | taskContinued found resumed => exact balanced.resume found _
  | taskEnded found resumed => exact balanced.finish owned found _
  | _ => exact balanced.forget (fun _ => id) rfl rfl

/--
In a run in which a stream of the peer only passes the check without a semaphore
while none of its serve tasks is running, the running tasks of the peer never
exceed the cap.
-/
theorem streams_per_peer_capped {registry : TunnelRegistry PeerId}
    {authenticator : GuardAuthenticator PeerId} {control : Bool}
    {metrics : Metrics} {connections : List (Connection PeerId)}
    {trace : List (GuardTransition PeerId)} {finish : GuardLoop PeerId}
    (run : Run (runGuardLoop registry)
      (GuardLoop.start authenticator registry control metrics connections)
      trace finish)
    {peer : PeerId}
    (drained : ∀ transition ∈ trace,
      EntersSemaphore peer transition.before transition.event →
        transition.before.unfinished peer = 0) :
    finish.unfinished peer ≤ registry.maxStreamsPerPeer := by
  have within : WithinCap registry.maxStreamsPerPeer peer finish := by
    induction run with
    | start =>
        refine ⟨semaphoresOwned_start authenticator registry control metrics
          connections, ?_, ⟨?_, ?_, ?_⟩⟩
        · intro id task present
          cases present
        · exact Nat.zero_le _
        · intro semaphore entry
          cases entry
        · intro semaphore entry
          cases entry
    | snoc prior taken induction =>
        refine (induction ?_).step (runGuardLoop_step taken) ?_
        · intro transition member
          exact drained transition (List.mem_append_left _ member)
        · exact drained _ List.mem_concat_self
  exact within.balanced.capped

section SmallRun

open SmallGuard

theorem streams_per_peer_capped_small :
    ∃ trace finish,
      Run (runGuardLoop registry) start trace finish ∧
      trace.map Transition.event =
        handshake ++ [.incomingStream 0, .incomingStream 0] ∧
      finish.unfinished peer ≤ 64 := by
  have computed : (execute (runGuardLoop registry) start
      (handshake ++ [.incomingStream 0, .incomingStream 0])).any
      (fun result => result.1.all fun transition =>
        transition.before.unfinished peer = 0 ||
          (transition.before.perPeer.lookup peer).isSome) = true := by
    decide +kernel
  rcases exists_run_of_any computed with ⟨trace, finish, run, events, observed⟩
  refine ⟨trace, finish, run, events, streams_per_peer_capped run ?_⟩
  rintro transition member ⟨_, _, _, -, -, -, -, -, absent⟩
  have checked := List.all_eq_true.mp observed transition member
  rw [absent] at checked
  simpa using checked

/-- The small Guard, with one stream allowed for each peer. -/
def narrowRegistry : TunnelRegistry BytePeer :=
  registry.maxConcurrentStreams 1 16

/--
A tunnel waits for its service while its connection closes; the peer comes
back, authenticates again and opens a second tunnel beside it.
-/
def reconnection : List (GuardEvent BytePeer) :=
  let fresh : Nonce := Vector.replicate nonceLen 8
  handshake ++ [.incomingStream 0, .task 0 (.received frame),
    .connectionClosed 0, .connectionEstablished peer, asks 2 fresh,
    answers 3 fresh, .incomingStream 1]

theorem streams_exceed_cap :
    ∃ trace finish,
      Run (runGuardLoop narrowRegistry)
        (GuardLoop.start start.authenticator narrowRegistry true {} [])
        trace finish ∧
      trace.map Transition.event = reconnection ∧
      narrowRegistry.maxStreamsPerPeer < finish.unfinished peer := by
  have computed : (execute (runGuardLoop narrowRegistry)
      (GuardLoop.start start.authenticator narrowRegistry true {} [])
      reconnection).any
      (fun result => decide (narrowRegistry.maxStreamsPerPeer <
        result.2.unfinished peer)) = true := by
    decide +kernel
  rcases exists_run_of_any computed with ⟨trace, finish, run, events, observed⟩
  exact ⟨trace, finish, run, events, of_decide_eq_true observed⟩

end SmallRun

end NuxAuth.Core
