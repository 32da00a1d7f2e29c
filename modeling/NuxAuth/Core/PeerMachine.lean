import NuxAuth.Lib.LocalView
import NuxAuth.Core.StreamCap

/-!
# The Guard as one peer meets it

What the Guard does for a peer depends on little: the peer's entry in the
whitelist, its pending challenge, its session, the phases of its connections,
the permits left in its semaphore, and for each of its running tasks whether it
would give a permit back to that semaphore.  `peerMachine` is a Guard with this
state only.

Connections and tasks are numbered across all peers by the loop.  A peer knows
them by their rank among its own.
-/

namespace NuxAuth.Core

open NuxAuth.Lib.FiniteTable
open NuxAuth.Lib.LocalView
open NuxAuth.Lib.RecordedRun
open GuardLoop GuardAuthenticator

variable {PeerId : Type}

/-! ## The slice of a state that belongs to one peer -/

/-- What the loop holds about one peer. -/
@[ext]
structure PeerView where
  roles : Option (List String)
  pending : Option IssuedChallenge
  session : Option (List String)
  stopping : Bool
  phases : List ConnectionPhase
  /-- available permits of the peer's semaphore, if it has one -/
  permits : Option Nat
  /-- for each running task, whether its permit is of that semaphore -/
  tasks : List Bool

section View

variable [DecidableEq PeerId]

/-- The phase of a connection of the peer. -/
def phaseOf (peer : PeerId) (connection : Connection PeerId) :
    Option ConnectionPhase :=
  if connection.peer = peer then some connection.phase else none

/-- The phases of its connections, in order. -/
def phasesOf (peer : PeerId) (connections : List (Connection PeerId)) :
    List ConnectionPhase :=
  connections.filterMap (phaseOf peer)

namespace GuardLoop

/-- Whether a task of the peer holds a permit of its present semaphore. -/
def taskOf (loop : GuardLoop PeerId) (peer : PeerId) (id : Nat) :
    Option Bool :=
  (loop.tasks.lookup id).bind fun task =>
    if task.peer = peer then
      some (decide (loop.perPeer.lookup peer = some task.semaphore))
    else
      none

/-- The same for all its tasks, in the order of their numbers. -/
def tasksOf (loop : GuardLoop PeerId) (peer : PeerId) : List Bool :=
  (List.range loop.nextTask).filterMap (loop.taskOf peer)

/-- What a state of the loop holds about the peer. -/
def viewOf [PeerIdentity PeerId] (peer : PeerId) (loop : GuardLoop PeerId) :
    PeerView where
  roles := loop.authenticator.whitelist.roles peer
  pending := loop.authenticator.pending.lookup peer
  session := loop.authenticator.sessions.lookup peer
  stopping := loop.shutdownDeadline.isSome
  phases := phasesOf peer loop.connections
  permits := (loop.perPeer.lookup peer).map loop.semaphores
  tasks := loop.tasksOf peer

end GuardLoop

/-! ## Its events and its log -/

deriving instance DecidableEq for Whitelist, GuardControl

/-- What happens to a peer, and the commands given to the Guard. -/
inductive PeerEvent (PeerId : Type) where
  | connected
  | closed (rank : Nat)
  | asked (channel : Nat) (channelOpen : Bool) (now : UInt64) (nonce : Nonce)
  | answered (channel : Nat) (channelOpen : Bool) (signature : List UInt8)
      (timestamp now : UInt64)
  | stream (rank : Nat)
  | taskEnded (rank : Nat)
  | control (command : GuardControl PeerId) (now : Nat)
deriving DecidableEq

/-- What the loop does about one peer. -/
inductive PeerReaction where
  | issued (challenge : NuxResponse)
  | verified (outcome : AuthOutcome)
  | respond (channel : Nat) (response : NuxResponse)
  | disconnect
  | sessionEnded
  | revoked
  | admitted (roles : List String)
deriving DecidableEq

/-- The place of a connection among those of the peer. -/
def connectionRank (peer : PeerId) (connections : List (Connection PeerId)) :
    Nat → Nat :=
  rank (phaseOf peer) connections

/-- The place of a task among those of the peer. -/
def taskRank (peer : PeerId) (loop : GuardLoop PeerId) : Nat → Nat :=
  rank (loop.taskOf peer) (List.range loop.nextTask)

/-- A connection of the peer, by its rank. -/
def rankedConnection (peer : PeerId) (loop : GuardLoop PeerId)
    (connection : Nat) : Option Nat :=
  (loop.connections[connection]?).bind fun carrier =>
    if carrier.peer = peer then
      some (connectionRank peer loop.connections connection)
    else
      none

/-- A request of the peer, as an event of its machine. -/
def requestEvent (channel : Nat) (channelOpen : Bool) (now : UInt64)
    (nonce : Nonce) : NuxRequest → PeerEvent PeerId
  | .handshakeInit => .asked channel channelOpen now nonce
  | .challengeAnswer signature timestamp =>
      .answered channel channelOpen signature timestamp now

/-- The event of a peer in a transition.  A task counts when it ends. -/
def peerEvent (peer : PeerId) (transition : GuardTransition PeerId) :
    Option (PeerEvent PeerId) :=
  match transition.event with
  | .connectionEstablished sender =>
      if sender = peer then some .connected else none
  | .connectionClosed connection =>
      (rankedConnection peer transition.before connection).map .closed
  | .request sender channel channelOpen request now nonce =>
      if sender = peer then
        some (requestEvent channel channelOpen now nonce request)
      else
        none
  | .otherSwarmEvent => none
  | .incomingStream connection =>
      (rankedConnection peer transition.before connection).map .stream
  | .control command now => some (.control command now)
  | .controlClosed => none
  | .drainTick _ => none
  | .task id _ =>
      if (transition.before.taskOf peer id).isSome ∧
          transition.after.tasks.lookup id = none then
        some (.taskEnded (taskRank peer transition.before id))
      else
        none

/-- What an action means to a peer: of a new task, the roles it captured. -/
def reactionOf (peer : PeerId) (after : GuardLoop PeerId) :
    GuardAction PeerId → Option PeerReaction
  | .issued receiver challenge =>
      if receiver = peer then some (.issued challenge) else none
  | .verified sender outcome =>
      if sender = peer then some (.verified outcome) else none
  | .respond receiver channel response =>
      if receiver = peer then some (.respond channel response) else none
  | .disconnect target => if target = peer then some .disconnect else none
  | .sessionEnded target => if target = peer then some .sessionEnded else none
  | .revoked target => if target = peer then some .revoked else none
  | .spawned id owner =>
      if owner = peer then
        (after.tasks.lookup id).map fun task => .admitted task.roles
      else
        none
  | .served _ _ _ => none
  | .finished _ => none

/-- What a step of the loop does about the peer. -/
def peerLog (peer : PeerId) (transition : GuardTransition PeerId) :
    List PeerReaction :=
  transition.actions.filterMap (reactionOf peer transition.after)

/-! ## A Guard with one peer -/

/-- A connection is asked to close; a closed one stays closed. -/
def ConnectionPhase.orderClosed : ConnectionPhase → ConnectionPhase
  | .established => .closing
  | .closing => .closing
  | .closed => .closed

namespace PeerView

/-- All connections of the peer are asked to close. -/
def disconnect (view : PeerView) : PeerView :=
  { view with phases := view.phases.map ConnectionPhase.orderClosed }

/-- No semaphore any more; the running tasks keep the permits they have. -/
def forgetSemaphore (view : PeerView) : PeerView :=
  { view with permits := none, tasks := view.tasks.map fun _ => false }

/-- The peer loses everything, and its connections if it had a session. -/
def revoke (view : PeerView) : PeerView × List PeerReaction :=
  let barred := { view with roles := none, pending := none, session := none }
  if view.session.isSome then
    (barred.disconnect.forgetSemaphore, [.revoked, .disconnect])
  else
    (barred, [.revoked])

/-- A response leaves while its channel is open. -/
def respond (channel : Nat) (channelOpen : Bool) (response : NuxResponse) :
    List PeerReaction :=
  if channelOpen then [.respond channel response] else []

/-- A connection is closed, and with the last one the session ends. -/
def close (view : PeerView) (rank : Nat) : PeerView × List PeerReaction :=
  let closed := { view with phases := view.phases.set rank .closed }
  if closed.phases.countP (· ≠ .closed) = 0 then
    ({ closed with pending := none, session := none }.forgetSemaphore,
      [.sessionEnded])
  else
    (closed, [])

/-- The peer asks for a challenge. -/
def ask (view : PeerView) (channel : Nat) (channelOpen : Bool) (now : UInt64)
    (nonce : Nonce) : PeerView × List PeerReaction :=
  if view.stopping ∨ view.roles.isNone then
    (view.disconnect, [.disconnect])
  else
    ({ view with pending := some ⟨nonce, now⟩ },
      .issued (.challenge nonce now) ::
        respond channel channelOpen (.challenge nonce now))

/-- The roles an answer to the pending challenge is granted. -/
def accepts [PeerIdentity PeerId] (view : PeerView) (peer : PeerId)
    (signature : List UInt8) (timestamp now : UInt64) :
    Option (List String) :=
  view.pending.bind fun challenge =>
    view.roles.bind fun roles =>
      (publicKeyOf peer).bind fun key =>
        if now.toNat - challenge.issuedAt.toNat ≤ maxClockSkewSecs ∧
            absDiff now timestamp ≤ maxClockSkewSecs ∧
              PeerIdentity.verify key
                (challengePayload challenge.nonce timestamp).toList signature
          then
          some roles
        else
          none

/-- The peer answers its challenge. -/
def answer [PeerIdentity PeerId] (view : PeerView) (peer : PeerId)
    (channel : Nat) (channelOpen : Bool) (signature : List UInt8)
    (timestamp now : UInt64) : PeerView × List PeerReaction :=
  match view.accepts peer signature timestamp now with
  | some roles =>
      ({ view with pending := none, session := some roles },
        .verified (.granted roles) ::
          respond channel channelOpen (.accessGranted roles))
  | none =>
      ({ view with pending := none }.disconnect,
        [.verified .reject, .disconnect])

/-- With a global permit always to be had, only the peer's cap is left. -/
def stream (cap : Nat) (view : PeerView) : PeerView × List PeerReaction :=
  if view.stopping then
    (view, [])
  else
    match view.session, view.roles with
    | some _, some roles =>
        let available := view.permits.getD cap
        if available = 0 then
          ({ view with permits := some available }, [])
        else
          ({ view with
              permits := some (available - 1)
              tasks := view.tasks ++ [true] },
            [.admitted roles])
    | _, _ => (view.disconnect, [.disconnect])

theorem stream_of_unauthenticated {cap : Nat} {view : PeerView}
    (serving : view.stopping = false)
    (outside : view.session = none ∨ view.roles = none) :
    view.stream cap = (view.disconnect, [.disconnect]) := by
  rw [stream, serving]
  cases session : view.session with
  | none => rfl
  | some granted =>
      rcases outside with absent | unlisted
      · rw [absent] at session
        cases session
      · simp [unlisted]

theorem stream_of_session {cap : Nat} {view : PeerView}
    (serving : view.stopping = false) {granted roles : List String}
    (session : view.session = some granted)
    (listed : view.roles = some roles) :
    view.stream cap =
      if view.permits.getD cap = 0 then
        ({ view with permits := some (view.permits.getD cap) }, [])
      else
        ({ view with
            permits := some (view.permits.getD cap - 1)
            tasks := view.tasks ++ [true] },
          [.admitted roles]) := by
  rw [stream, serving]
  simp [session, listed]

/-- A task of the peer ends; its permit returns where it came from. -/
def endTask (view : PeerView) (rank : Nat) : PeerView :=
  { view with
    permits :=
      if view.tasks[rank]? = some true then
        view.permits.map (· + 1)
      else
        view.permits
    tasks := view.tasks.eraseIdx rank }

/-- A command that may be about the peer. -/
def obey [PeerIdentity PeerId] (view : PeerView) (peer : PeerId) :
    GuardControl PeerId → PeerView × List PeerReaction
  | .revoke target => if target = peer then view.revoke else (view, [])
  | .allow target roles =>
      (if target = peer then { view with roles := some roles } else view, [])
  | .reloadWhitelist newWhitelist =>
      let listed := { view with roles := newWhitelist.roles peer }
      if view.session.isSome ∧ listed.roles.isNone then
        listed.revoke
      else
        (listed, [])
  | .shutdown _ => ({ view with stopping := true }, [])

end PeerView

/-- One step of the Guard as far as the peer is concerned; the cap is that of
its semaphore. -/
def peerMachine [PeerIdentity PeerId] (cap : Nat) (peer : PeerId)
    (view : PeerView) : PeerEvent PeerId → PeerView × List PeerReaction
  | .connected => ({ view with phases := view.phases ++ [.established] }, [])
  | .closed rank => view.close rank
  | .asked channel channelOpen now nonce =>
      view.ask channel channelOpen now nonce
  | .answered channel channelOpen signature timestamp now =>
      view.answer peer channel channelOpen signature timestamp now
  | .stream _ => view.stream cap
  | .taskEnded rank => (view.endTask rank, [])
  | .control command _ => view.obey peer command

/-- The peer as a party of the loop. -/
def partyOf [PeerIdentity PeerId] (cap : Nat) (peer : PeerId) :
    Party (GuardLoop PeerId) (GuardEvent PeerId) (GuardAction PeerId) PeerView
      (PeerEvent PeerId) PeerReaction where
  view := GuardLoop.viewOf peer
  event := peerEvent peer
  log := peerLog peer
  machine := peerMachine cap peer

/-! ## Connections of the peer -/

section Phases

variable {peer other : PeerId} {connections : List (Connection PeerId)}

theorem phaseOf_self (phase : ConnectionPhase) :
    phaseOf peer ⟨peer, phase⟩ = some phase :=
  if_pos rfl

theorem phaseOf_other (different : other ≠ peer) (phase : ConnectionPhase) :
    phaseOf peer ⟨other, phase⟩ = none :=
  if_neg different

theorem phasesOf_append (peer : PeerId)
    (connections : List (Connection PeerId)) (other : PeerId)
    (phase : ConnectionPhase) :
    phasesOf peer (connections ++ [⟨other, phase⟩]) =
      phasesOf peer connections ++ if other = peer then [phase] else [] := by
  rw [phasesOf, List.filterMap_append]
  by_cases same : other = peer
  · simp [phasesOf, phaseOf, same]
  · simp [phasesOf, phaseOf, same]

theorem numEstablished_eq (peer : PeerId)
    (connections : List (Connection PeerId)) :
    numEstablished connections peer =
      (phasesOf peer connections).countP (· ≠ .closed) := by
  rw [phasesOf, List.countP_filterMap, numEstablished]
  apply List.countP_congr
  intro connection member
  by_cases same : connection.peer = peer
  · simp [phaseOf, same]
  · simp [phaseOf, same]

theorem phaseOf_orderClosed (connection : Connection PeerId) :
    phaseOf peer (GuardLoop.orderClosed other connection) =
      if other = peer then
        (phaseOf peer connection).map ConnectionPhase.orderClosed
      else
        phaseOf peer connection := by
  rcases connection with ⟨owner, phase⟩
  by_cases same : owner = peer
  · subst same
    by_cases target : other = owner
    · subst target
      cases phase <;> simp [phaseOf, GuardLoop.orderClosed,
        ConnectionPhase.orderClosed]
    · have apart : owner ≠ other := Ne.symm target
      simp [phaseOf, GuardLoop.orderClosed, target, apart]
  · have hidden : ∀ moved, phaseOf peer ⟨owner, moved⟩ = none :=
      phaseOf_other same
    unfold GuardLoop.orderClosed
    split <;> simp [hidden]

theorem phasesOf_map_orderClosed (peer : PeerId)
    (connections : List (Connection PeerId)) (other : PeerId) :
    phasesOf peer (connections.map (GuardLoop.orderClosed other)) =
      if other = peer then
        (phasesOf peer connections).map ConnectionPhase.orderClosed
      else
        phasesOf peer connections := by
  rw [phasesOf, List.filterMap_map]
  have each : phaseOf peer ∘ GuardLoop.orderClosed other =
      fun connection => if other = peer then
        (phaseOf peer connection).map ConnectionPhase.orderClosed
      else
        phaseOf peer connection := by
    funext connection
    exact phaseOf_orderClosed connection
  rw [each]
  split
  · rw [phasesOf, List.map_filterMap]
  · rfl

/-- A revocation of several peers closes the connections of the peer when it
is one of them and had a session. -/
theorem phasesOf_map_cutIfRevoked (authenticator : GuardAuthenticator PeerId)
    (peers : List PeerId) :
    phasesOf peer (connections.map (cutIfRevoked authenticator peers)) =
      if peer ∈ peers ∧ (authenticator.sessions.lookup peer).isSome then
        (phasesOf peer connections).map ConnectionPhase.orderClosed
      else
        phasesOf peer connections := by
  rw [phasesOf, List.filterMap_map]
  have each : phaseOf peer ∘ cutIfRevoked authenticator peers =
      fun connection =>
        if peer ∈ peers ∧ (authenticator.sessions.lookup peer).isSome then
          (phaseOf peer connection).map ConnectionPhase.orderClosed
        else
          phaseOf peer connection := by
    funext connection
    rcases connection with ⟨owner, phase⟩
    by_cases same : owner = peer
    · subst same
      simp only [Function.comp, cutIfRevoked]
      split
      · rw [phaseOf_orderClosed, if_pos rfl]
      · rfl
    · have hidden : ∀ moved, phaseOf peer ⟨owner, moved⟩ = none :=
        phaseOf_other same
      have cut : phaseOf peer (cutIfRevoked authenticator peers
          ⟨owner, phase⟩) = none := by
        unfold cutIfRevoked
        split
        · rw [phaseOf_orderClosed, if_neg same]
          exact hidden phase
        · exact hidden phase
      simp only [Function.comp, cut, hidden]
      split <;> rfl
  rw [each]
  split
  · rw [phasesOf, List.map_filterMap]
  · rfl

theorem phasesOf_set_self {index : Nat} {phase : ConnectionPhase}
    (found : connections[index]? = some ⟨peer, phase⟩)
    (moved : ConnectionPhase) :
    phasesOf peer (connections.set index ⟨peer, moved⟩) =
      (phasesOf peer connections).set
        (connectionRank peer connections index) moved :=
  filterMap_set found (phaseOf_self phase) (phaseOf_self moved)

theorem phasesOf_set_other {index : Nat} {phase : ConnectionPhase}
    (found : connections[index]? = some ⟨other, phase⟩)
    (different : other ≠ peer) (moved : ConnectionPhase) :
    phasesOf peer (connections.set index ⟨other, moved⟩) =
      phasesOf peer connections :=
  filterMap_set_hidden found (phaseOf_other different phase)
    (phaseOf_other different moved)

end Phases

/-! ## Tasks of the peer -/

section Tasks

variable {peer : PeerId} {loop next : GuardLoop PeerId}

theorem taskOf_eq_some_iff {id : Nat} {flag : Bool} :
    loop.taskOf peer id = some flag ↔
      ∃ task, loop.tasks.lookup id = some task ∧ task.peer = peer ∧
        flag = decide (loop.perPeer.lookup peer = some task.semaphore) := by
  rw [taskOf, Option.bind_eq_some_iff]
  constructor
  · rintro ⟨task, found, kept⟩
    rcases Option.ite_none_right_eq_some.mp kept with ⟨own, same⟩
    exact ⟨task, found, own, (Option.some.inj same).symm⟩
  · rintro ⟨task, found, own, rfl⟩
    exact ⟨task, found, if_pos own⟩

/-- The same tasks and the same semaphore of the peer. -/
theorem tasksOf_congr (number : next.nextTask = loop.nextTask)
    (tasks : next.tasks = loop.tasks)
    (entry : next.perPeer.lookup peer = loop.perPeer.lookup peer) :
    next.tasksOf peer = loop.tasksOf peer := by
  have each : next.taskOf peer = loop.taskOf peer := by
    funext id
    rw [taskOf, taskOf, tasks, entry]
  rw [tasksOf, tasksOf, number, each]

/-- Without a semaphore of the peer no task gives a permit back to it. -/
theorem tasksOf_forget (number : next.nextTask = loop.nextTask)
    (tasks : next.tasks = loop.tasks)
    (absent : next.perPeer.lookup peer = none) :
    next.tasksOf peer = (loop.tasksOf peer).map fun _ => false := by
  have each : next.taskOf peer =
      fun id => (loop.taskOf peer id).map fun _ => false := by
    funext id
    rw [taskOf, taskOf, tasks, absent]
    cases loop.tasks.lookup id with
    | none => rfl
    | some task =>
        by_cases own : task.peer = peer
        · simp [own]
        · simp [own]
  rw [tasksOf, tasksOf, number, each, List.map_filterMap]

end Tasks

end View

end NuxAuth.Core
