import NuxAuth.Core.Client
import NuxAuth.Core.GuardStep

/-!
# Handshakes over a network

Any number of honest clients and honest Guards run their state machines next to
peers that follow no protocol.  A request stays available once it is sent, and
so does a response: either may arrive at any later moment, more than once, or
never.  What libp2p promises is built in.  A request carries the identity of the peer that
sent it, and an honest client's request ids are never used again; a response
reaches a client only as the answer to a request it sent to the peer that
answers.

A peer that is no honest client sends requests in its own name, with any
content.  A peer that is no honest Guard answers the requests sent to it, with
any content; the nonces of its challenges are of its choosing.
-/

namespace NuxAuth.Core

open NuxAuth.Lib.RecordedRun

/-! ## State, events and actions -/

/-- Who follows the protocol, with which keys and services. -/
structure Parties (PeerId : Type) where
  isClient : PeerId → Bool
  isGuard : PeerId → Bool
  sign : PeerId → List UInt8 → Option (List UInt8)
  registry : PeerId → TunnelRegistry PeerId

/-- A client and the call of `authenticate` it is in. -/
structure ClientNode (PeerId : Type) where
  swarm : Swarm PeerId
  call : Option (PeerId × AuthenticateStage)

/-- A request under way, with its sender and the id that the sender gave it. -/
structure Envelope (PeerId : Type) where
  sender : PeerId
  receiver : PeerId
  requestId : Nat
  request : NuxRequest
deriving DecidableEq

/-- A request is known to its receiver by its position, its channel. -/
structure Network (PeerId : Type) where
  clients : PeerId → ClientNode PeerId
  guards : PeerId → GuardLoop PeerId
  requests : List (Envelope PeerId)
  /-- what honest Guards answered, and on which channel -/
  responses : List (Nat × NuxResponse)

/-- What can happen between the parties. -/
inductive NetworkEvent (PeerId : Type) where
  /-- an honest client calls `authenticate` -/
  | call (client guard : PeerId)
  /-- it drops the call -/
  | abandon (client : PeerId)
  /-- outside a call, it sends a `HandshakeInit` of its own -/
  | initiate (client guard : PeerId)
  | poll (client : PeerId) (event : SwarmEvent PeerId) (now : UInt64)
  | inject (envelope : Envelope PeerId)
  | deliver (channel : Nat) (channelOpen : Bool) (now : UInt64)
      (nonce : Nonce)
  | guard (guard : PeerId) (event : GuardEvent PeerId)

/-- What a party does. -/
inductive NetworkAction (PeerId : Type) where
  | client (client : PeerId) (action : ClientAction PeerId)
  | guard (guard : PeerId) (action : GuardAction PeerId)
deriving DecidableEq

/-- One recorded step of the network. -/
abbrev NetworkTransition (PeerId : Type) :=
  Transition (Network PeerId) (NetworkEvent PeerId) (NetworkAction PeerId)

/-! ## One step -/

namespace Network

variable {PeerId : Type}

/-- The request a client put on the network. -/
def envelopeOf (client : PeerId) :
    ClientAction PeerId → Option (Envelope PeerId)
  | .sent receiver requestId request =>
      some ⟨client, receiver, requestId, request⟩
  | _ => none

/-- The response a Guard put on the network. -/
def responseOf : GuardAction PeerId → Option (Nat × NuxResponse)
  | .respond _ channel response => some (channel, response)
  | _ => none

/-- The call of a client after it went on or returned. -/
def callAfter (guard : PeerId) :
    AuthenticateProgress → Option (PeerId × AuthenticateStage)
  | .continues stage => some (guard, stage)
  | .returns _ => none

/-- Requests come through the network, the other events do not. -/
def IsRequest : GuardEvent PeerId → Bool
  | .request _ _ _ _ _ _ => true
  | _ => false

variable [DecidableEq PeerId]

/-- The client moves on, and what it has sent is under way. -/
def withClient (network : Network PeerId) (client : PeerId)
    (node : ClientNode PeerId) (actions : List (ClientAction PeerId)) :
    Network PeerId × List (NetworkAction PeerId) :=
  ({ network with
      clients := Function.update network.clients client node
      requests :=
        network.requests ++ actions.filterMap (envelopeOf client) },
    actions.map (.client client))

/-- The client sent this peer a request with this id. -/
def asked (client peer : PeerId) (requestId : Nat)
    (envelope : Envelope PeerId) : Bool :=
  envelope.sender = client ∧ envelope.receiver = peer ∧
    envelope.requestId = requestId

/-- An event a client can receive, as far as others decide it. -/
def justified (parties : Parties PeerId) (network : Network PeerId)
    (client : PeerId) : SwarmEvent PeerId → Bool
  | .response peer requestId response =>
      if parties.isGuard peer then
        network.responses.any fun sent =>
          sent.2 = response ∧
            (network.requests[sent.1]?).any (asked client peer requestId)
      else
        network.requests.any (asked client peer requestId)
  | _ => true

end Network

open Network

variable {PeerId : Type} [DecidableEq PeerId] [PeerIdentity PeerId]

/-- One step of the network: an honest client or Guard moves, or somebody else
sends a request. -/
def stepNetwork (parties : Parties PeerId) :
    Step (Network PeerId) (NetworkEvent PeerId) (NetworkAction PeerId) :=
  fun network event =>
    match event with
    | .call client guard =>
        let node := network.clients client
        if parties.isClient client ∧ node.call.isNone then
          let (swarm, stage, actions) := authenticate node.swarm guard
          some (network.withClient client ⟨swarm, some (guard, stage)⟩ actions)
        else
          none
    | .abandon client =>
        let node := network.clients client
        if parties.isClient client then
          some (network.withClient client { node with call := none } [])
        else
          none
    | .initiate client guard =>
        let node := network.clients client
        if parties.isClient client ∧ node.call.isNone then
          let (swarm, _, actions) :=
            node.swarm.sendRequest guard .handshakeInit
          some (network.withClient client { node with swarm := swarm } actions)
        else
          none
    | .poll client event now =>
        let node := network.clients client
        if parties.isClient client ∧ network.justified parties client event then
          (node.swarm.observe event).map fun swarm =>
            match node.call with
            | none =>
                network.withClient client { node with swarm := swarm } []
            | some (guard, stage) =>
                let (swarm, progress, actions) := resumeAuthenticate
                  (parties.sign client) guard swarm now stage event
                network.withClient client ⟨swarm, callAfter guard progress⟩
                  actions
        else
          none
    | .inject envelope =>
        if parties.isClient envelope.sender then
          none
        else
          some ({ network with requests := network.requests ++ [envelope] },
            [])
    | .deliver channel channelOpen now nonce =>
        match network.requests[channel]? with
        | none => none
        | some envelope =>
            let guard := envelope.receiver
            if parties.isGuard guard then
              (runGuardLoop (parties.registry guard) (network.guards guard)
                (.request envelope.sender channel channelOpen
                  envelope.request now nonce)).map fun result =>
                    ({ network with
                        guards := Function.update network.guards guard result.1
                        responses := network.responses ++
                          result.2.filterMap responseOf },
                      result.2.map (.guard guard))
            else
              none
    | .guard guard event =>
        if parties.isGuard guard ∧ ¬ IsRequest event then
          (runGuardLoop (parties.registry guard) (network.guards guard)
            event).map fun result =>
              ({ network with
                  guards := Function.update network.guards guard result.1 },
                result.2.map (.guard guard))
        else
          none

/-! ## What one step can do -/

/-- The moves of one client, by their effect on it. -/
inductive ClientMove (parties : Parties PeerId) (network : Network PeerId)
    (client : PeerId) :
    NetworkEvent PeerId → ClientNode PeerId → List (ClientAction PeerId) →
      Prop where
  | started (guard : PeerId)
      (idle : (network.clients client).call = none) :
      ClientMove parties network client (.call client guard)
        ⟨(authenticate (network.clients client).swarm guard).1,
          some (guard,
            (authenticate (network.clients client).swarm guard).2.1)⟩
        (authenticate (network.clients client).swarm guard).2.2
  | dropped :
      ClientMove parties network client (.abandon client)
        { network.clients client with call := none } []
  | initiated (guard : PeerId)
      (idle : (network.clients client).call = none) :
      ClientMove parties network client (.initiate client guard)
        { network.clients client with
          swarm := ((network.clients client).swarm.sendRequest guard
            .handshakeInit).1 }
        ((network.clients client).swarm.sendRequest guard
          .handshakeInit).2.2
  | observed (event : SwarmEvent PeerId) (now : UInt64)
      {swarm : Swarm PeerId}
      (idle : (network.clients client).call = none)
      (seen : (network.clients client).swarm.observe event = some swarm) :
      ClientMove parties network client (.poll client event now)
        { network.clients client with swarm := swarm } []
  | resumed (event : SwarmEvent PeerId) (now : UInt64)
      {swarm : Swarm PeerId} {guard : PeerId} {stage : AuthenticateStage}
      {result :
        Swarm PeerId × AuthenticateProgress × List (ClientAction PeerId)}
      (running : (network.clients client).call = some (guard, stage))
      (seen : (network.clients client).swarm.observe event = some swarm)
      (justified : network.justified parties client event = true)
      (resumption : Resumption (parties.sign client) guard swarm now stage
        event result) :
      ClientMove parties network client (.poll client event now)
        ⟨result.1, callAfter guard result.2.1⟩ result.2.2

/-- The steps of the network, by the party that moves. -/
inductive NetworkStep (parties : Parties PeerId) (network : Network PeerId) :
    NetworkEvent PeerId → Network PeerId → List (NetworkAction PeerId) →
      Prop where
  | client {client : PeerId} {event : NetworkEvent PeerId}
      {node : ClientNode PeerId} {log : List (ClientAction PeerId)}
      (honest : parties.isClient client = true)
      (move : ClientMove parties network client event node log) :
      NetworkStep parties network event
        (network.withClient client node log).1 (log.map (.client client))
  | inject (envelope : Envelope PeerId)
      (foreign : parties.isClient envelope.sender = false) :
      NetworkStep parties network (.inject envelope)
        { network with requests := network.requests ++ [envelope] } []
  | deliver {channel : Nat} {channelOpen : Bool} {now : UInt64}
      {nonce : Nonce} {envelope : Envelope PeerId} {next : GuardLoop PeerId}
      {log : List (GuardAction PeerId)}
      (honest : parties.isGuard envelope.receiver = true)
      (received : network.requests[channel]? = some envelope)
      (step : GuardStep (parties.registry envelope.receiver)
        (network.guards envelope.receiver)
        (.request envelope.sender channel channelOpen envelope.request now
          nonce) next log) :
      NetworkStep parties network (.deliver channel channelOpen now nonce)
        { network with
          guards := Function.update network.guards envelope.receiver next
          responses := network.responses ++ log.filterMap responseOf }
        (log.map (.guard envelope.receiver))
  | guard {guard : PeerId} {event : GuardEvent PeerId}
      {next : GuardLoop PeerId} {log : List (GuardAction PeerId)}
      (other : IsRequest event = false)
      (step : GuardStep (parties.registry guard) (network.guards guard) event
        next log) :
      NetworkStep parties network (.guard guard event)
        { network with
          guards := Function.update network.guards guard next }
        (log.map (.guard guard))

theorem stepNetwork_step {parties : Parties PeerId}
    {network next : Network PeerId} {event : NetworkEvent PeerId}
    {actions : List (NetworkAction PeerId)}
    (taken : stepNetwork parties network event = some (next, actions)) :
    NetworkStep parties network event next actions := by
  cases event with
  | call client guard =>
      rcases Option.ite_none_right_eq_some.mp taken with ⟨⟨honest, idle⟩, same⟩
      cases same
      exact .client honest (.started guard (Option.isNone_iff_eq_none.mp idle))
  | abandon client =>
      rcases Option.ite_none_right_eq_some.mp taken with ⟨honest, same⟩
      cases same
      exact .client honest .dropped
  | initiate client guard =>
      rcases Option.ite_none_right_eq_some.mp taken with ⟨⟨honest, idle⟩, same⟩
      cases same
      exact .client honest
        (.initiated guard (Option.isNone_iff_eq_none.mp idle))
  | poll client event now =>
      rcases Option.ite_none_right_eq_some.mp taken with
        ⟨⟨honest, justified⟩, polled⟩
      rcases Option.map_eq_some_iff.mp polled with ⟨swarm, seen, same⟩
      split at same
      · rename_i idle
        cases same
        exact .client honest (.observed event now idle seen)
      · rename_i guard stage running
        cases same
        exact .client honest (.resumed event now running seen justified
          (resumeAuthenticate_resumption _ _ _ _ _ _))
  | inject envelope =>
      rcases Option.ite_none_left_eq_some.mp taken with ⟨foreign, same⟩
      cases same
      exact .inject envelope (Bool.not_eq_true _ ▸ foreign)
  | deliver channel channelOpen now nonce =>
      simp only [stepNetwork] at taken
      split at taken
      · cases taken
      · rename_i envelope received
        rcases Option.ite_none_right_eq_some.mp taken with ⟨honest, ran⟩
        rcases Option.map_eq_some_iff.mp ran with ⟨⟨loop, log⟩, step, same⟩
        cases same
        exact .deliver honest received (runGuardLoop_step step)
  | guard guard event =>
      rcases Option.ite_none_right_eq_some.mp taken with ⟨⟨honest, other⟩, ran⟩
      rcases Option.map_eq_some_iff.mp ran with ⟨⟨loop, log⟩, step, same⟩
      cases same
      exact .guard (Bool.not_eq_true _ ▸ other) (runGuardLoop_step step)

end NuxAuth.Core
