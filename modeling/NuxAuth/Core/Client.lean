import NuxAuth.Core.Identity
import NuxAuth.Lib.RecordedRun

/-!
# The client's side of a handshake

`NuxNode::authenticate` is a sequential procedure that polls the swarm.  Between
two polls it waits in one of two stages: for a connection to the Guard, or for
the response to the request it sent last.  One resumption of the call takes the
event the poll returned and goes on to the next wait, or returns.

Of the swarm, the node sees how many connections to a peer are established and
how many dials are pending.  That view changes only with the events a poll
returns.
-/

namespace NuxAuth.Core

/-! ## The swarm as the node sees it -/

/-- What the client keeps of its connections: those established and those being
dialed, by peer, and the id of the next request. -/
structure Swarm (PeerId : Type) where
  established : PeerId → Nat
  dialing : PeerId → Nat
  nextRequestId : Nat

/-- The events of the swarm that the client tells apart. -/
inductive SwarmEvent (PeerId : Type) where
  | connectionEstablished (peer : PeerId) (dialer : Bool)
  | connectionClosed (peer : PeerId) (numEstablished : Nat)
  | outgoingConnectionError (peer : Option PeerId) (error : String)
  | dialing (peer : PeerId)
  | response (peer : PeerId) (requestId : Nat) (response : NuxResponse)
  | outboundFailure (peer : PeerId) (requestId : Nat)
  | other
deriving DecidableEq

/-- The errors the handshake can end with. -/
inductive NuxError where
  | identity
  | dial (error : String)
  | accessDenied
  /-- an unexpected response of the Guard -/
  | protocol (response : NuxResponse)
deriving DecidableEq

/-- What the client does, and what a call of it returns. -/
inductive ClientAction (PeerId : Type) where
  | dialed (peer : PeerId)
  | dialRefused (peer : PeerId)
  | sent (peer : PeerId) (requestId : Nat) (request : NuxRequest)
  | authenticated (roles : List String)
  | failed (error : NuxError)
deriving DecidableEq

namespace Swarm

variable {PeerId : Type} [DecidableEq PeerId]

omit [DecidableEq PeerId] in
/-- `Swarm::is_connected`. -/
def isConnected (swarm : Swarm PeerId) (peer : PeerId) : Bool :=
  0 < swarm.established peer

/-- `Swarm::dial` under the condition `DisconnectedAndNotDialing`. -/
def dial (swarm : Swarm PeerId) (peer : PeerId) : Option (Swarm PeerId) :=
  if swarm.established peer = 0 ∧ swarm.dialing peer = 0 then
    some { swarm with dialing := Function.update swarm.dialing peer 1 }
  else
    none

theorem dial_of_disconnected {swarm : Swarm PeerId} {peer : PeerId}
    (apart : swarm.established peer = 0 ∧ swarm.dialing peer = 0) :
    swarm.dial peer =
      some { swarm with dialing := Function.update swarm.dialing peer 1 } :=
  if_pos apart

theorem dial_of_not_disconnected {swarm : Swarm PeerId} {peer : PeerId}
    (near : ¬ (swarm.established peer = 0 ∧ swarm.dialing peer = 0)) :
    swarm.dial peer = none :=
  if_neg near

/-- The view after a poll that returned this event; `none` if it cannot. -/
def observe (swarm : Swarm PeerId) :
    SwarmEvent PeerId → Option (Swarm PeerId)
  | .connectionEstablished peer dialer =>
      if dialer ∧ swarm.dialing peer = 0 then
        none
      else
        some { swarm with
          established := Function.update swarm.established peer
            (swarm.established peer + 1)
          dialing := Function.update swarm.dialing peer
            (swarm.dialing peer - if dialer then 1 else 0) }
  | .connectionClosed peer numEstablished =>
      if swarm.established peer = numEstablished + 1 then
        some { swarm with
          established := Function.update swarm.established peer
            numEstablished }
      else
        none
  | .outgoingConnectionError (some peer) _ =>
      if swarm.dialing peer = 0 then
        none
      else
        some { swarm with
          dialing := Function.update swarm.dialing peer
            (swarm.dialing peer - 1) }
  -- A behaviour dials under the same condition.
  | .dialing peer => swarm.dial peer
  | _ => some swarm

/-- A poll does not send requests. -/
theorem observe_nextRequestId {swarm next : Swarm PeerId}
    {event : SwarmEvent PeerId} (seen : swarm.observe event = some next) :
    next.nextRequestId = swarm.nextRequestId := by
  cases event with
  | connectionEstablished peer dialer =>
      rcases Option.ite_none_left_eq_some.mp seen with ⟨-, same⟩
      cases same
      rfl
  | connectionClosed peer numEstablished =>
      rcases Option.ite_none_right_eq_some.mp seen with ⟨-, same⟩
      cases same
      rfl
  | outgoingConnectionError peer error =>
      cases peer with
      | none =>
          cases seen
          rfl
      | some peer =>
          rcases Option.ite_none_left_eq_some.mp seen with ⟨-, same⟩
          cases same
          rfl
  | dialing peer =>
      rcases Option.ite_none_right_eq_some.mp seen with ⟨-, same⟩
      cases same
      rfl
  | _ =>
      cases seen
      rfl

omit [DecidableEq PeerId] in
/-- A request gets the next id. -/
def sendRequest (swarm : Swarm PeerId) (peer : PeerId)
    (request : NuxRequest) :
    Swarm PeerId × Nat × List (ClientAction PeerId) :=
  ({ swarm with nextRequestId := swarm.nextRequestId + 1 },
    swarm.nextRequestId, [.sent peer swarm.nextRequestId request])

end Swarm

/-! ## The call -/

/-- Where a call of `authenticate` waits: for the connection, or for the
response to its last request. -/
inductive AuthenticateStage where
  | connecting
  | awaiting (requestId : Nat) (challengeAnswered : Bool)
deriving DecidableEq

/-- A call goes on or returns. -/
inductive AuthenticateProgress where
  | continues (stage : AuthenticateStage)
  | returns (result : Except NuxError (List String))

/-- `answer_challenge`; `sign` is the node's key. -/
def answerChallenge (sign : List UInt8 → Option (List UInt8)) (nonce : Nonce)
    (timestamp : UInt64) : Option NuxRequest :=
  (sign (challengePayload nonce timestamp).toList).map fun signature =>
    .challengeAnswer signature timestamp

section Authenticate

variable {PeerId : Type} [DecidableEq PeerId]

/-- The call up to its first wait. -/
def authenticate (swarm : Swarm PeerId) (guard : PeerId) :
    Swarm PeerId × AuthenticateStage × List (ClientAction PeerId) :=
  if swarm.isConnected guard then
    let (swarm, awaiting, actions) := swarm.sendRequest guard .handshakeInit
    (swarm, .awaiting awaiting false, actions)
  else
    (swarm, .connecting, [])

/-- The call from the event a poll returned to its next wait. -/
def resumeAuthenticate (sign : List UInt8 → Option (List UInt8))
    (guard : PeerId) (swarm : Swarm PeerId) (now : UInt64)
    (stage : AuthenticateStage) (event : SwarmEvent PeerId) :
    Swarm PeerId × AuthenticateProgress × List (ClientAction PeerId) :=
  let ignored := (swarm, .continues stage, [])
  let fails := fun error => (swarm, .returns (.error error), [.failed error])
  match stage, event with
  | .connecting, .connectionEstablished peer _ =>
      if peer = guard then
        let (swarm, awaiting, actions) :=
          swarm.sendRequest guard .handshakeInit
        (swarm, .continues (.awaiting awaiting false), actions)
      else
        ignored
  | .connecting, .outgoingConnectionError peer error =>
      if peer = some guard then fails (.dial error) else ignored
  | .awaiting awaiting challengeAnswered, .response peer requestId response =>
      if peer = guard ∧ requestId = awaiting then
        match challengeAnswered, response with
        | false, .challenge nonce _ =>
            match answerChallenge sign nonce now with
            | none => fails .identity
            | some answer =>
                let (swarm, awaiting, actions) :=
                  swarm.sendRequest guard answer
                (swarm, .continues (.awaiting awaiting true), actions)
        | true, .accessGranted roles =>
            (swarm, .returns (.ok roles), [.authenticated roles])
        | _, .denied => fails .accessDenied
        | _, other => fails (.protocol other)
      else
        ignored
  | .awaiting awaiting _, .outboundFailure peer requestId =>
      if peer = guard ∧ requestId = awaiting then
        fails .accessDenied
      else
        ignored
  | .awaiting _ _, .connectionClosed peer _ =>
      if peer = guard then fails .accessDenied else ignored
  | _, _ => ignored

/-! ## What one resumption can do -/

/-- The resumptions of a call, by their effect. -/
inductive Resumption (sign : List UInt8 → Option (List UInt8))
    (guard : PeerId) (swarm : Swarm PeerId) (now : UInt64) :
    AuthenticateStage → SwarmEvent PeerId →
      Swarm PeerId × AuthenticateProgress × List (ClientAction PeerId) →
        Prop where
  | ignored {stage : AuthenticateStage} {event : SwarmEvent PeerId} :
      Resumption sign guard swarm now stage event
        (swarm, .continues stage, [])
  | connected (dialer : Bool) :
      Resumption sign guard swarm now .connecting
        (.connectionEstablished guard dialer)
        ({ swarm with nextRequestId := swarm.nextRequestId + 1 },
          .continues (.awaiting swarm.nextRequestId false),
          [.sent guard swarm.nextRequestId .handshakeInit])
  | challenged {awaiting : Nat} {nonce : Nonce} {timestamp : UInt64}
      {signature : List UInt8}
      (signed : sign (challengePayload nonce now).toList = some signature) :
      Resumption sign guard swarm now (.awaiting awaiting false)
        (.response guard awaiting (.challenge nonce timestamp))
        ({ swarm with nextRequestId := swarm.nextRequestId + 1 },
          .continues (.awaiting swarm.nextRequestId true),
          [.sent guard swarm.nextRequestId
            (.challengeAnswer signature now)])
  | granted {awaiting : Nat} (roles : List String) :
      Resumption sign guard swarm now (.awaiting awaiting true)
        (.response guard awaiting (.accessGranted roles))
        (swarm, .returns (.ok roles), [.authenticated roles])
  | failed {stage : AuthenticateStage} {event : SwarmEvent PeerId}
      (error : NuxError) :
      Resumption sign guard swarm now stage event
        (swarm, .returns (.error error), [.failed error])

theorem resumeAuthenticate_resumption
    (sign : List UInt8 → Option (List UInt8)) (guard : PeerId)
    (swarm : Swarm PeerId) (now : UInt64) (stage : AuthenticateStage)
    (event : SwarmEvent PeerId) :
    Resumption sign guard swarm now stage event
      (resumeAuthenticate sign guard swarm now stage event) := by
  cases stage with
  | connecting =>
      cases event with
      | connectionEstablished peer dialer =>
          simp only [resumeAuthenticate]
          split
          · rename_i same
            subst same
            exact .connected dialer
          · exact .ignored
      | outgoingConnectionError peer error =>
          simp only [resumeAuthenticate]
          split
          · exact .failed _
          · exact .ignored
      | _ => exact .ignored
  | awaiting awaiting challengeAnswered =>
      cases event with
      | response peer requestId response =>
          simp only [resumeAuthenticate]
          split
          · rename_i matched
            rcases matched with ⟨rfl, rfl⟩
            split
            · rename_i nonce timestamp
              cases signed : sign (challengePayload nonce now).toList with
              | none =>
                  simp only [answerChallenge, signed, Option.map_none]
                  exact .failed _
              | some signature =>
                  simp only [answerChallenge, signed, Option.map_some]
                  exact .challenged signed
            · exact .granted _
            · exact .failed _
            · exact .failed _
          · exact .ignored
      | outboundFailure peer requestId =>
          simp only [resumeAuthenticate]
          split
          · exact .failed _
          · exact .ignored
      | connectionClosed peer numEstablished =>
          simp only [resumeAuthenticate]
          split
          · exact .failed _
          · exact .ignored
      | _ => exact .ignored

end Authenticate

end NuxAuth.Core
