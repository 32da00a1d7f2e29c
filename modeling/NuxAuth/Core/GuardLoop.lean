import NuxAuth.Lib.RecordedRun
import NuxAuth.Core.Metrics

/-!
# The service loop of a Guard

`run_guard_loop` waits on the swarm, on the incoming tunnel streams, on the
control channel and, once a shutdown was requested, on a periodic timer.  The
serve tasks it spawns run beside it.  Whatever is ready first is served: the
order of events is the only nondeterminism, and it is the argument of
`runGuardLoop`.

Clock readings, drawn nonces and the fate of a response channel come with the
event.  The connections are those of the swarm's own table, numbered in the
order of their establishment; ordering a peer disconnected only marks them, and
their closure is a later event.  A semaphore outlives its table entry as long as
a task holds one of its permits, so semaphores are numbered too and the table
holds their numbers.
-/

namespace NuxAuth.Core

open NuxAuth.Lib.FiniteTable
open NuxAuth.Lib.RecordedRun

/-! ## State, events and actions -/

/-- Commands that change a running Guard. -/
inductive GuardControl (PeerId : Type) where
  | revoke (peer : PeerId)
  | allow (peer : PeerId) (roles : List String)
  | reloadWhitelist (newWhitelist : Whitelist PeerId)
  | shutdown (gracePeriod : Nat)

/-- A connection that was asked to close is closed later. -/
inductive ConnectionPhase where
  | established
  | closing
  | closed
deriving DecidableEq

/-- One connection of a peer; a peer may have several. -/
structure Connection (PeerId : Type) where
  peer : PeerId
  phase : ConnectionPhase
deriving DecidableEq

/-- A spawned serve task: what it captured, and where it waits. -/
structure ServeTask (PeerId : Type) where
  peer : PeerId
  connection : Nat
  roles : List String
  semaphore : Nat
  stage : ServeStage

/-- The node, the locals of its loop, and the tasks and permits around it. -/
structure GuardLoop (PeerId : Type) where
  authenticator : GuardAuthenticator PeerId
  shutdownDeadline : Option Nat
  metrics : Metrics
  control : Bool
  running : Bool
  /-- available permits of the global semaphore -/
  global : Nat
  perPeer : Table PeerId Nat
  /-- available permits of each numbered semaphore -/
  semaphores : Nat → Nat
  nextSemaphore : Nat
  tasks : Table Nat (ServeTask PeerId)
  nextTask : Nat
  connections : List (Connection PeerId)

/-- What the service loop waits for, and the progress of its serve tasks. -/
inductive GuardEvent (PeerId : Type) where
  | connectionEstablished (peer : PeerId)
  | connectionClosed (connection : Nat)
  | request (peer : PeerId) (channel : Nat) (channelOpen : Bool)
      (request : NuxRequest) (now : UInt64) (nonce : Nonce)
  | otherSwarmEvent
  | incomingStream (connection : Nat)
  | control (command : GuardControl PeerId) (now : Nat)
  | controlClosed
  | drainTick (now : Nat)
  | task (id : Nat) (event : ServeEvent)

/-- What the loop and its tasks do that can be told from outside or from the
log. -/
inductive GuardAction (PeerId : Type) where
  | issued (peer : PeerId) (challenge : NuxResponse)
  | verified (peer : PeerId) (outcome : AuthOutcome)
  | respond (peer : PeerId) (channel : Nat) (response : NuxResponse)
  | disconnect (peer : PeerId)
  | sessionEnded (peer : PeerId)
  | revoked (peer : PeerId)
  | spawned (task : Nat) (peer : PeerId)
  | served (task : Nat) (peer : PeerId) (action : ServeAction)
  | finished (task : Nat)
deriving DecidableEq

/-- One recorded step of the loop. -/
abbrev GuardTransition (PeerId : Type) :=
  Transition (GuardLoop PeerId) (GuardEvent PeerId) (GuardAction PeerId)

namespace GuardLoop

variable {PeerId : Type}

/-- The loop entered with an authenticator, on the swarm as it stands. -/
def start (authenticator : GuardAuthenticator PeerId)
    (registry : TunnelRegistry PeerId) (control : Bool) (metrics : Metrics)
    (connections : List (Connection PeerId)) : GuardLoop PeerId where
  authenticator := authenticator
  shutdownDeadline := none
  metrics := metrics
  control := control
  running := true
  global := registry.maxStreamsTotal
  perPeer := ∅
  semaphores := fun _ => 0
  nextSemaphore := 0
  tasks := ∅
  nextTask := 0
  connections := connections

variable [DecidableEq PeerId]

/-! ## Connections -/

/-- Connections of a peer the swarm has not reported closed. -/
def numEstablished (connections : List (Connection PeerId))
    (peer : PeerId) : Nat :=
  connections.countP fun connection =>
    connection.peer = peer ∧ connection.phase ≠ .closed

/-- `Swarm::disconnect_peer_id`: every connection of the peer is ordered
closed. -/
def orderClosed (peer : PeerId) (connection : Connection PeerId) :
    Connection PeerId :=
  if connection.peer = peer ∧ connection.phase = .established then
    { connection with phase := .closing }
  else
    connection

/-- `Swarm::disconnect_peer_id`: all connections of the peer are asked to
close. -/
def disconnectPeerId (loop : GuardLoop PeerId) (peer : PeerId) :
    GuardLoop PeerId :=
  { loop with connections := loop.connections.map (orderClosed peer) }

/-- The response channel is dropped and the connection cut. -/
def silence (loop : GuardLoop PeerId) (peer : PeerId) :
    GuardLoop PeerId × List (GuardAction PeerId) :=
  (loop.disconnectPeerId peer, [.disconnect peer])

/-! ## Authentication requests and closed connections -/

omit [DecidableEq PeerId] in
/-- The response leaves only if its channel is still open. -/
def sendResponse (peer : PeerId) (channel : Nat) (channelOpen : Bool)
    (response : NuxResponse) : List (GuardAction PeerId) :=
  if channelOpen then [.respond peer channel response] else []

section Requests

variable [PeerIdentity PeerId]

/-- `handle_auth_request`: a request is answered, or its sender is met with
silence. -/
def handleAuthRequest (loop : GuardLoop PeerId) (peer : PeerId)
    (channel : Nat) (channelOpen : Bool) (request : NuxRequest)
    (now : UInt64) (nonce : Nonce) :
    GuardLoop PeerId × List (GuardAction PeerId) :=
  let denied := { loop with metrics := loop.metrics.recordAuthDenied }
  match request with
  | .handshakeInit =>
      if loop.shutdownDeadline.isSome then
        denied.silence peer
      else
        match loop.authenticator.issueAt peer now nonce with
        | (authenticator, some challenge) =>
            ({ loop with authenticator := authenticator },
              .issued peer challenge ::
                sendResponse peer channel channelOpen challenge)
        | (authenticator, none) =>
            { denied with authenticator := authenticator }.silence peer
  | .challengeAnswer signature timestamp =>
      match loop.authenticator.verifyAt peer signature timestamp now with
      | (authenticator, .granted roles) =>
          ({ loop with
              authenticator := authenticator
              metrics := loop.metrics.recordAuthGranted },
            .verified peer (.granted roles) ::
              sendResponse peer channel channelOpen (.accessGranted roles))
      | (authenticator, .reject) =>
          let (cut, actions) :=
            { denied with authenticator := authenticator }.silence peer
          (cut, .verified peer .reject :: actions)

end Requests

/-- `ConnectionClosed`: the peer's session ends with its last connection. -/
def handleConnectionClosed (loop : GuardLoop PeerId) (connection : Nat) :
    Option (GuardLoop PeerId × List (GuardAction PeerId)) :=
  match loop.connections[connection]? with
  | none => none
  | some ⟨_, .closed⟩ => none
  | some ⟨peer, _⟩ =>
      let connections := loop.connections.set connection ⟨peer, .closed⟩
      if numEstablished connections peer = 0 then
        some ({ loop with
            connections := connections
            perPeer := loop.perPeer.erase peer
            authenticator := loop.authenticator.endSession peer },
          [.sessionEnded peer])
      else
        some ({ loop with connections := connections }, [])

/-! ## Incoming tunnel streams -/

/-- `per_peer.entry(peer).or_insert_with(..)`. -/
def peerSemaphore (registry : TunnelRegistry PeerId)
    (loop : GuardLoop PeerId) (peer : PeerId) : GuardLoop PeerId × Nat :=
  match loop.perPeer.lookup peer with
  | some semaphore => (loop, semaphore)
  | none =>
      ({ loop with
          perPeer := loop.perPeer.insert peer loop.nextSemaphore
          semaphores := Function.update loop.semaphores loop.nextSemaphore
            registry.maxStreamsPerPeer
          nextSemaphore := loop.nextSemaphore + 1 },
        loop.nextSemaphore)

/-- Both permits are held: the task starts with the roles read just before. -/
def spawnServe (loop : GuardLoop PeerId) (peer : PeerId) (connection : Nat)
    (roles : List String) (semaphore : Nat) :
    GuardLoop PeerId × List (GuardAction PeerId) :=
  ({ loop with
      semaphores := Function.update loop.semaphores semaphore
        (loop.semaphores semaphore - 1)
      global := loop.global - 1
      metrics := loop.metrics.recordTunnelStarted
      tasks := loop.tasks.insert loop.nextTask
        ⟨peer, connection, roles, semaphore, .readingHeader []⟩
      nextTask := loop.nextTask + 1 },
    [.spawned loop.nextTask peer])

/-- A stream that is dropped is counted. -/
def denyStream (loop : GuardLoop PeerId) : GuardLoop PeerId :=
  { loop with metrics := loop.metrics.recordTunnelDenied }

/-- A stream was dequeued: it needs a session and a permit of both caps. -/
def acceptStream [PeerIdentity PeerId] (registry : TunnelRegistry PeerId)
    (loop : GuardLoop PeerId) (peer : PeerId) (connection : Nat) :
    GuardLoop PeerId × List (GuardAction PeerId) :=
  if loop.shutdownDeadline.isSome then
    (loop.denyStream, [])
  else
    match loop.authenticator.sessionRoles peer with
    | none => loop.denyStream.silence peer
    | some roles =>
        let (entered, semaphore) := peerSemaphore registry loop peer
        if entered.semaphores semaphore = 0 then
          (entered.denyStream, [])
        else if entered.global = 0 then
          -- The permit of the peer goes back unused.
          (entered.denyStream, [])
        else
          entered.spawnServe peer connection roles semaphore

/-! ## Control commands -/

/-- A peer that had a session loses its connections and its semaphore. -/
def revokePeer (loop : GuardLoop PeerId) (peer : PeerId) :
    GuardLoop PeerId × List (GuardAction PeerId) :=
  match loop.authenticator.revoke peer with
  | (authenticator, true) =>
      let cut := { loop with authenticator := authenticator }.disconnectPeerId
        peer
      ({ cut with perPeer := cut.perPeer.erase peer },
        [.revoked peer, .disconnect peer])
  | (authenticator, false) =>
      ({ loop with authenticator := authenticator }, [.revoked peer])

/-- The peers are revoked one after the other. -/
def revokePeers (loop : GuardLoop PeerId) :
    List PeerId → GuardLoop PeerId × List (GuardAction PeerId)
  | [] => (loop, [])
  | peer :: rest =>
      let (cut, actions) := loop.revokePeer peer
      let (finished, later) := cut.revokePeers rest
      (finished, actions ++ later)

/-- The list is replaced; sessions and challenges stay. -/
def replaceWhitelist (loop : GuardLoop PeerId)
    (whitelist : Whitelist PeerId) : GuardLoop PeerId :=
  { loop with
    authenticator := { loop.authenticator with whitelist := whitelist } }

/-- Who loses all access: listed before the whitelist is replaced. -/
def toRevoke [PeerIdentity PeerId] (loop : GuardLoop PeerId)
    (newWhitelist : Whitelist PeerId) : List PeerId :=
  loop.authenticator.authenticatedPeers.filter fun peer =>
    (newWhitelist.roles peer).isNone

/-- A command on the control channel. -/
def handleControl [PeerIdentity PeerId] (loop : GuardLoop PeerId)
    (now : Nat) :
    GuardControl PeerId → GuardLoop PeerId × List (GuardAction PeerId)
  | .shutdown gracePeriod =>
      ({ loop with shutdownDeadline := some (now + gracePeriod) }, [])
  | .revoke peer => loop.revokePeer peer
  | .allow peer roles =>
      (loop.replaceWhitelist (loop.authenticator.whitelist.allow peer roles),
        [])
  | .reloadWhitelist newWhitelist =>
      (loop.replaceWhitelist newWhitelist).revokePeers
        (loop.toRevoke newWhitelist)

/-! ## Serve tasks and the drain timer -/

/-- One resumption of a spawned task; its permits go back when it ends. -/
def resumeTask (registry : TunnelRegistry PeerId) (loop : GuardLoop PeerId)
    (id : Nat) (event : ServeEvent) :
    Option (GuardLoop PeerId × List (GuardAction PeerId)) :=
  match loop.tasks.lookup id with
  | none => none
  | some task =>
      match serveIo registry task.peer task.roles task.stage event with
      | none => none
      | some (.continues stage actions) =>
          some ({ loop with
              tasks := loop.tasks.insert id { task with stage := stage } },
            actions.map (.served id task.peer))
      | some (.ends outcome) =>
          some ({ loop with
              metrics := loop.metrics.recordTunnelFinished outcome
              tasks := loop.tasks.erase id
              semaphores := Function.update loop.semaphores task.semaphore
                (loop.semaphores task.semaphore + 1)
              global := loop.global + 1 },
            [.finished id])

/-- A tick of the drain timer, polled only once a shutdown was requested. -/
def drainCheck (registry : TunnelRegistry PeerId) (loop : GuardLoop PeerId)
    (now : Nat) : Option (GuardLoop PeerId) :=
  match loop.shutdownDeadline with
  | none => none
  | some deadline =>
      if loop.global = registry.maxStreamsTotal ∨ deadline ≤ now then
        some { loop with running := false }
      else
        some loop

end GuardLoop

variable {PeerId : Type} [DecidableEq PeerId] [PeerIdentity PeerId]

/-- One iteration of `run_guard_loop`, or one resumption of a serve task. -/
def runGuardLoop (registry : TunnelRegistry PeerId) :
    Step (GuardLoop PeerId) (GuardEvent PeerId) (GuardAction PeerId) :=
  fun loop event =>
    match event with
    | .task id event => loop.resumeTask registry id event
    | event =>
        if loop.running then
          match event with
          | .connectionEstablished peer =>
              some ({ loop with
                connections := loop.connections ++ [⟨peer, .established⟩] },
                [])
          | .connectionClosed connection =>
              loop.handleConnectionClosed connection
          | .request peer channel channelOpen request now nonce =>
              some (loop.handleAuthRequest peer channel channelOpen request
                now nonce)
          | .otherSwarmEvent => some (loop, [])
          | .incomingStream connection =>
              (loop.connections[connection]?).map fun carrier =>
                GuardLoop.acceptStream registry loop carrier.peer connection
          | .control command now =>
              if loop.control then
                some (loop.handleControl now command)
              else
                none
          | .controlClosed =>
              if loop.control then
                some ({ loop with control := false }, [])
              else
                none
          | .drainTick now =>
              (loop.drainCheck registry now).map fun next => (next, [])
          | .task _ _ => none
        else
          none

/-! ## A small Guard

One peer, one service that requires the peer's only role.
-/

namespace SmallGuard

/-- The one peer of the small Guard. -/
def peer : BytePeer := ⟨1⟩

/-- Its one service asks for a role. -/
def registry : TunnelRegistry BytePeer :=
  TunnelRegistry.new.expose "db" (.loopback 5432) (some "reader")

/-- The peer has that role. -/
def start : GuardLoop BytePeer :=
  GuardLoop.start
    (GuardAuthenticator.new (Whitelist.new.allow peer ["reader"]))
    registry true {} []

/-- The nonce of its challenges. -/
def nonce : Nonce := Vector.replicate nonceLen 7

/-- The peer asks for a challenge, or answers the one it received. -/
def asks (channel : Nat) (nonce : Nonce) : GuardEvent BytePeer :=
  .request peer channel true .handshakeInit 0 nonce

/-- The peer answers the challenge with this nonce. -/
def answers (channel : Nat) (nonce : Nonce) : GuardEvent BytePeer :=
  .request peer channel true
    (.challengeAnswer (peer.sign (challengePayload nonce 0).toList) 0)
    0 nonce

/-- A connection and both requests of a handshake. -/
def handshake : List (GuardEvent BytePeer) :=
  [.connectionEstablished peer, asks 0 nonce, answers 1 nonce]

/-- The opening frame of a tunnel to the service. -/
def frame : List UInt8 :=
  let header : TunnelHeader := ⟨"db", Vector.replicate sha256Len 0⟩
  0 :: 35 :: tunnelHeaderBytes header

/-- The step does this. -/
def logs (transition : GuardTransition BytePeer)
    (action : GuardAction BytePeer) : Bool :=
  decide (action ∈ transition.actions)

@[simp]
theorem logs_iff {transition : GuardTransition BytePeer}
    {action : GuardAction BytePeer} :
    logs transition action = true ↔ action ∈ transition.actions :=
  decide_eq_true_iff

end SmallGuard

end NuxAuth.Core
