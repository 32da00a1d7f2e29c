import NuxAuth.Core.HandshakeNetwork
import NuxAuth.Core.Shutdown

/-!
# Agreement on a completed handshake

The octets a client signs name neither the Guard nor the session.  What ties
the two sides together is the bookkeeping around them: the client takes a
response only for the request it sent last and only from the Guard it called,
and a Guard verifies an answer only under the identity that sent it.

A call is followed through the run by the transition that opened it and by what
the client has sent since.
-/

namespace NuxAuth.Core

open NuxAuth.Lib.FiniteTable NuxAuth.Lib.RecordedRun
open GuardAuthenticator Network

variable {PeerId : Type} [DecidableEq PeerId] [PeerIdentity PeerId]

/-! ## Calls in a run -/

/-- The client opens, drops or finishes a call. -/
def CallBoundary (client : PeerId) (transition : NetworkTransition PeerId) :
    Prop :=
  (∃ guard, transition.event = .call client guard) ∨
    transition.event = .abandon client ∨
      (∃ roles, .client client (.authenticated roles) ∈ transition.actions) ∨
        ∃ error, .client client (.failed error) ∈ transition.actions

/-- The call this transition opened is not over after the next ones. -/
structure CallOpen (client guard : PeerId)
    (call : NetworkTransition PeerId)
    (during : List (NetworkTransition PeerId)) : Prop where
  called : call.event = .call client guard
  unbroken : ∀ transition ∈ during, ¬ CallBoundary client transition

/-- The call that this transition opened, up to the one that ends it, or only a
part of the way. -/
structure CallSpan (client guard : PeerId)
    (call : NetworkTransition PeerId)
    (span : List (NetworkTransition PeerId)) : Prop where
  called : call.event = .call client guard
  unbroken : ∀ transition ∈ span.dropLast, ¬ CallBoundary client transition

/-- The request of an action of the client, if it is one. -/
def requestOf (client : PeerId) : NetworkAction PeerId → Option NuxRequest
  | .client sender (.sent _ _ request) =>
      if sender = client then some request else none
  | _ => none

/-- The requests the client sent, in order. -/
def sentBy (client : PeerId) (trace : List (NetworkTransition PeerId)) :
    List NuxRequest :=
  trace.flatMap fun transition => transition.actions.filterMap
    (requestOf client)

/-- A challenge of the Guard arrives, and the client signs its nonce. -/
structure AnswersChallenge (parties : Parties PeerId)
    (client guard : PeerId) (requestId : Nat) (signature : List UInt8)
    (timestamp : UInt64) (nonce : Nonce)
    (transition : NetworkTransition PeerId) : Prop where
  received : ∃ asked issuedAt, transition.event =
    .poll client (.response guard asked (.challenge nonce issuedAt)) timestamp
  signed : parties.sign client (challengePayload nonce timestamp).toList =
    some signature
  sent : .client client
      (.sent guard requestId (.challengeAnswer signature timestamp)) ∈
    transition.actions

/-! ## What a step does to requests and responses -/

section Step

variable {parties : Parties PeerId} {network next : Network PeerId}
    {event : NetworkEvent PeerId} {actions : List (NetworkAction PeerId)}

omit [DecidableEq PeerId] [PeerIdentity PeerId] in
theorem authenticate_sent {swarm : Swarm PeerId} {guard receiver : PeerId}
    {requestId : Nat} {request : NuxRequest}
    (logged : .sent receiver requestId request ∈
      (authenticate swarm guard).2.2) :
    requestId = swarm.nextRequestId ∧ request = .handshakeInit ∧
      (authenticate swarm guard).1.nextRequestId = requestId + 1 ∧
        (authenticate swarm guard).2.2 = [.sent receiver requestId request] := by
  rw [authenticate] at logged ⊢
  split
  · rename_i connected
    rw [if_pos connected] at logged
    cases List.mem_singleton.mp logged
    exact ⟨rfl, rfl, rfl, rfl⟩
  · rename_i apart
    rw [if_neg apart] at logged
    cases logged

omit [PeerIdentity PeerId] in
/-- A client sends at most one request at a time, with a fresh id. -/
theorem ClientMove.sent {client receiver : PeerId}
    {node : ClientNode PeerId} {log : List (ClientAction PeerId)}
    {requestId : Nat} {request : NuxRequest}
    (move : ClientMove parties network client event node log)
    (logged : .sent receiver requestId request ∈ log) :
    requestId = (network.clients client).swarm.nextRequestId ∧
      node.swarm.nextRequestId = requestId + 1 ∧
        log = [.sent receiver requestId request] := by
  cases move with
  | started guard idle =>
      rcases authenticate_sent logged with ⟨fresh, -, after, only⟩
      exact ⟨fresh, after, only⟩
  | dropped => cases logged
  | initiated guard idle =>
      cases List.mem_singleton.mp logged
      exact ⟨rfl, rfl, rfl⟩
  | observed polled now idle seen => cases logged
  | resumed polled now running seen justified resumption =>
      have same := Swarm.observe_nextRequestId seen
      cases resumption with
      | ignored => cases logged
      | connected dialer =>
          cases List.mem_singleton.mp logged
          exact ⟨same, rfl, rfl⟩
      | challenged signed =>
          cases List.mem_singleton.mp logged
          exact ⟨same, rfl, rfl⟩
      | granted roles => simp at logged
      | failed error => simp at logged

omit [PeerIdentity PeerId] in
theorem ClientMove.nextRequestId_le {client : PeerId}
    {node : ClientNode PeerId} {log : List (ClientAction PeerId)}
    (move : ClientMove parties network client event node log) :
    (network.clients client).swarm.nextRequestId ≤
      node.swarm.nextRequestId := by
  cases move with
  | started guard idle =>
      rw [authenticate]
      split
      · exact Nat.le_succ _
      · exact le_rfl
  | dropped => exact le_rfl
  | initiated guard idle => exact Nat.le_succ _
  | observed polled now idle seen =>
      exact (Swarm.observe_nextRequestId seen).ge
  | resumed polled now running seen justified resumption =>
      have same := Swarm.observe_nextRequestId seen
      cases resumption with
      | ignored => exact same.ge
      | connected dialer => exact same.ge.trans (Nat.le_succ _)
      | challenged signed => exact same.ge.trans (Nat.le_succ _)
      | granted roles => exact same.ge
      | failed error => exact same.ge

/-- Seen from one client, a step is a move of that client or none of it. -/
theorem NetworkStep.at_client (step : NetworkStep parties network event next
    actions) (client : PeerId) :
    (∃ log, ClientMove parties network client event (next.clients client)
        log ∧ actions = log.map (.client client)) ∨
      (next.clients client = network.clients client ∧
        (∀ action, .client client action ∉ actions) ∧
          (∀ guard, event ≠ .call client guard) ∧ event ≠ .abandon client) := by
  cases step with
  | client honest move =>
      rename_i mover node log
      by_cases same : mover = client
      · subst same
        refine Or.inl ⟨log, ?_, rfl⟩
        simpa [withClient] using move
      · refine Or.inr ⟨?_, ?_, ?_, ?_⟩
        · simp [withClient, Function.update_of_ne (Ne.symm same)]
        · simp [same]
        · rintro guard rfl
          cases move
          exact same rfl
        · rintro rfl
          cases move
          exact same rfl
  | inject envelope foreign => exact Or.inr ⟨rfl, by simp, by simp, by simp⟩
  | deliver honest received step => exact Or.inr ⟨rfl, by simp, by simp, by simp⟩
  | guard other step => exact Or.inr ⟨rfl, by simp, by simp, by simp⟩

theorem NetworkStep.nextRequestId_le
    (step : NetworkStep parties network event next actions)
    (client : PeerId) :
    (network.clients client).swarm.nextRequestId ≤
      (next.clients client).swarm.nextRequestId := by
  rcases step.at_client client with ⟨log, move, -⟩ | ⟨same, -⟩
  · exact move.nextRequestId_le
  · rw [same]

/-- A logged request is new, alone, and on the network from then on. -/
theorem NetworkStep.sent
    (step : NetworkStep parties network event next actions)
    {client receiver : PeerId} {requestId : Nat} {request : NuxRequest}
    (logged : .client client (.sent receiver requestId request) ∈ actions) :
    requestId = (network.clients client).swarm.nextRequestId ∧
      (next.clients client).swarm.nextRequestId = requestId + 1 ∧
        actions = [.client client (.sent receiver requestId request)] ∧
          ⟨client, receiver, requestId, request⟩ ∈ next.requests := by
  cases step with
  | client honest move =>
      rename_i mover node log
      rcases List.mem_map.mp logged with ⟨action, member, same⟩
      cases same
      rcases move.sent member with ⟨fresh, after, only⟩
      subst only
      refine ⟨fresh, ?_, rfl, ?_⟩
      · simpa [withClient] using after
      · simp [withClient, envelopeOf]
  | inject envelope foreign => cases logged
  | deliver honest received step => simp at logged
  | guard other step => simp at logged

/-- Requests are only added; an honest client's, as it sends them. -/
theorem NetworkStep.requests
    (step : NetworkStep parties network event next actions) :
    ∃ new, next.requests = network.requests ++ new ∧
      ∀ envelope ∈ new, parties.isClient envelope.sender = true →
        .client envelope.sender (.sent envelope.receiver envelope.requestId
          envelope.request) ∈ actions := by
  cases step with
  | client honest move =>
      rename_i mover node log
      refine ⟨log.filterMap (envelopeOf mover), rfl, ?_⟩
      intro envelope member _
      rcases List.mem_filterMap.mp member with ⟨action, logged, made⟩
      cases action with
      | sent receiver requestId request =>
          cases made
          exact List.mem_map_of_mem logged
      | _ => cases made
  | inject envelope foreign =>
      refine ⟨[envelope], rfl, ?_⟩
      intro other member honest
      rw [List.mem_singleton.mp member, foreign] at honest
      cases honest
  | deliver honest received step => exact ⟨[], by simp, by simp⟩
  | guard other step => exact ⟨[], by simp, by simp⟩

/-- A response is put on the network while its request is handled. -/
theorem NetworkStep.responses
    (step : NetworkStep parties network event next actions) :
    ∃ new, next.responses = network.responses ++ new ∧
      ∀ sent ∈ new, ∃ channelOpen now nonce envelope,
        event = .deliver sent.1 channelOpen now nonce ∧
          network.requests[sent.1]? = some envelope ∧
            .guard envelope.receiver
              (.respond envelope.sender sent.1 sent.2) ∈ actions := by
  cases step with
  | client honest move => exact ⟨[], by simp [withClient], by simp⟩
  | inject envelope foreign => exact ⟨[], by simp, by simp⟩
  | deliver honest received step =>
      rename_i channel channelOpen now nonce envelope next log
      refine ⟨log.filterMap responseOf, rfl, ?_⟩
      rintro ⟨answered, response⟩ member
      rcases List.mem_filterMap.mp member with ⟨action, logged, made⟩
      cases action with
      | respond peer channel other =>
          cases made
          rcases step.respond_request logged with ⟨_, _, _, _, same⟩
          cases same
          exact ⟨channelOpen, now, nonce, envelope, rfl, received,
            List.mem_map_of_mem logged⟩
      | _ => cases made
  | guard other step => exact ⟨[], by simp, by simp⟩

/-- A verdict is a verdict on a request the Guard received. -/
theorem NetworkStep.granted
    (step : NetworkStep parties network event next actions)
    {guard client : PeerId} {roles : List String}
    (logged : .guard guard (.verified client (.granted roles)) ∈ actions) :
    ∃ channel channelOpen now nonce requestId signature timestamp challenge,
      event = .deliver channel channelOpen now nonce ∧
        network.requests[channel]? =
          some ⟨client, guard, requestId,
            .challengeAnswer signature timestamp⟩ ∧
          (network.guards guard).authenticator.pending.lookup client =
            some challenge ∧
            Acceptable (network.guards guard).authenticator.whitelist
              challenge client signature timestamp now roles := by
  cases step with
  | client honest move => simp at logged
  | inject envelope foreign => cases logged
  | deliver honest received step =>
      rename_i channel channelOpen now nonce envelope next log
      rcases List.mem_map.mp logged with ⟨action, member, same⟩
      cases same
      rcases step.granted_answer member with ⟨answered, _, signature,
        timestamp, _, _, challenge, handled, pending, acceptable⟩
      rcases envelope with ⟨sender, receiver, requestId, request⟩
      cases handled
      exact ⟨channel, channelOpen, now, nonce, requestId, signature, timestamp,
        challenge, rfl, received, pending, acceptable⟩
  | guard other step =>
      rcases List.mem_map.mp logged with ⟨action, member, same⟩
      cases same
      rcases step.granted_answer member with ⟨_, _, _, _, _, _, _, rfl, -⟩
      cases other

/-- An access is announced by a step that grants it. -/
theorem NetworkStep.access_granted
    (step : NetworkStep parties network event next actions)
    {guard client : PeerId} {channel : Nat} {roles : List String}
    (logged : .guard guard (.respond client channel (.accessGranted roles)) ∈
      actions) :
    .guard guard (.verified client (.granted roles)) ∈ actions := by
  cases step with
  | client honest move => simp at logged
  | inject envelope foreign => cases logged
  | deliver honest received step =>
      rcases List.mem_map.mp logged with ⟨action, member, same⟩
      cases same
      exact List.mem_map_of_mem (step.access_granted member)
  | guard other step =>
      rcases List.mem_map.mp logged with ⟨action, member, same⟩
      cases same
      exact List.mem_map_of_mem (step.access_granted member)

end Step

/-! ## Requests over a run -/

/-- Ids of honest clients' requests lie below their counters and are unique. -/
structure RequestsNumbered (parties : Parties PeerId)
    (network : Network PeerId) : Prop where
  below : ∀ envelope ∈ network.requests,
    parties.isClient envelope.sender = true →
      envelope.requestId <
        (network.clients envelope.sender).swarm.nextRequestId
  unique : ∀ left ∈ network.requests, ∀ right ∈ network.requests,
    parties.isClient left.sender = true → left.sender = right.sender →
      left.requestId = right.requestId → left = right

/-- Nothing was sent yet, and no call is under way. -/
structure Fresh (network : Network PeerId) : Prop where
  noRequests : network.requests = []
  noResponses : network.responses = []
  noCalls : ∀ client, (network.clients client).call = none

section Run

variable {parties : Parties PeerId} {start finish : Network PeerId}
    {trace : List (NetworkTransition PeerId)}

theorem RequestsNumbered.step {network next : Network PeerId}
    {event : NetworkEvent PeerId} {actions : List (NetworkAction PeerId)}
    (numbered : RequestsNumbered parties network)
    (step : NetworkStep parties network event next actions) :
    RequestsNumbered parties next := by
  rcases step.requests with ⟨new, extended, sent⟩
  have older : ∀ envelope ∈ network.requests,
      parties.isClient envelope.sender = true →
        ∀ other ∈ new, envelope.sender = other.sender →
          envelope.requestId < other.requestId := by
    intro envelope member honest other fresh same
    have logged := sent other fresh (same ▸ honest)
    rw [(step.sent logged).1, ← same]
    exact numbered.below envelope member honest
  constructor
  · intro envelope member honest
    rw [extended] at member
    rcases List.mem_append.mp member with old | fresh
    · exact (numbered.below envelope old honest).trans_le
        (step.nextRequestId_le envelope.sender)
    · rw [(step.sent (sent envelope fresh honest)).2.1]
      exact Nat.lt_succ_self _
  · intro left leftMember right rightMember honest sameSender sameId
    rw [extended] at leftMember rightMember
    rcases List.mem_append.mp leftMember with leftOld | leftNew
    · rcases List.mem_append.mp rightMember with rightOld | rightNew
      · exact numbered.unique left leftOld right rightOld honest sameSender
          sameId
      · exact absurd sameId
          (older left leftOld honest right rightNew sameSender).ne
    · rcases List.mem_append.mp rightMember with rightOld | rightNew
      · have rightHonest : parties.isClient right.sender = true :=
          sameSender ▸ honest
        exact absurd sameId
          (older right rightOld rightHonest left leftNew sameSender.symm).ne'
      · have leftLogged := sent left leftNew honest
        have rightLogged := sent right rightNew (sameSender ▸ honest)
        rw [(step.sent leftLogged).2.2.1, List.mem_singleton] at rightLogged
        rcases left with ⟨sender, receiver, requestId, request⟩
        rcases right with ⟨_, _, _, _⟩
        cases rightLogged
        rfl

theorem requestsNumbered_of_run (fresh : Fresh start)
    (run : Run (stepNetwork parties) start trace finish) :
    RequestsNumbered parties finish := by
  refine run.invariant ?_ ?_
  · constructor
    · simp [fresh.noRequests]
    · simp [fresh.noRequests]
  · intro network event next actions numbered taken
    exact numbered.step (stepNetwork_step taken)

/-- What was requested stays where it is. -/
theorem requests_extended (run : Run (stepNetwork parties) start trace finish) :
    start.requests <+: finish.requests := by
  induction run with
  | start => exact List.prefix_rfl
  | snoc prior taken induction =>
      rcases (stepNetwork_step taken).requests with ⟨new, extended, -⟩
      rw [extended]
      exact induction.trans (List.prefix_append _ _)

theorem request_kept (run : Run (stepNetwork parties) start trace finish)
    {channel : Nat} {envelope : Envelope PeerId}
    (present : start.requests[channel]? = some envelope) :
    finish.requests[channel]? = some envelope := by
  rcases requests_extended run with ⟨later, whole⟩
  have within := (List.getElem?_eq_some_iff.mp present).1
  rw [← whole, List.getElem?_append_left within]
  exact present

/-- Every response of the run was given by an earlier step. -/
theorem response_given (fresh : Fresh start)
    (run : Run (stepNetwork parties) start trace finish)
    {channel : Nat} {response : NuxResponse}
    (present : (channel, response) ∈ finish.responses) :
    ∃ earlier mark later, trace = earlier ++ mark :: later ∧
      ∃ channelOpen now nonce envelope,
        mark.event = .deliver channel channelOpen now nonce ∧
          mark.before.requests[channel]? = some envelope ∧
            .guard envelope.receiver
              (.respond envelope.sender channel response) ∈ mark.actions := by
  induction run with
  | start =>
      rw [fresh.noResponses] at present
      cases present
  | snoc prior taken induction =>
      rename_i trace state event actions next
      rcases (stepNetwork_step taken).responses with ⟨new, extended, given⟩
      rw [extended] at present
      rcases List.mem_append.mp present with old | recent
      · rcases induction old with ⟨earlier, mark, later, rfl, facts⟩
        exact ⟨earlier, mark, later ++ [⟨state, event, actions, next⟩],
          by simp, facts⟩
      · exact ⟨trace, ⟨state, event, actions, next⟩, [], rfl,
          given (channel, response) recent⟩

/-! ## Calls over a run -/

/-- What a call has sent by the time it waits in this stage. -/
inductive CallStage (parties : Parties PeerId) (client guard : PeerId)
    (call : NetworkTransition PeerId)
    (during : List (NetworkTransition PeerId)) : AuthenticateStage → Prop where
  | connecting (sent : sentBy client (call :: during) = []) :
      CallStage parties client guard call during .connecting
  | initiated {requestId : Nat}
      (sent : sentBy client (call :: during) = [.handshakeInit]) :
      CallStage parties client guard call during (.awaiting requestId false)
  | answered {requestId : Nat} {signature : List UInt8} {timestamp : UInt64}
      {nonce : Nonce} {before after : List (NetworkTransition PeerId)}
      {answer : NetworkTransition PeerId}
      (whole : during = before ++ answer :: after)
      (answers : AnswersChallenge parties client guard requestId signature
        timestamp nonce answer)
      (sent : sentBy client (call :: during) =
        [.handshakeInit, .challengeAnswer signature timestamp]) :
      CallStage parties client guard call during (.awaiting requestId true)

omit [PeerIdentity PeerId] in
theorem sentBy_append (client : PeerId)
    (front back : List (NetworkTransition PeerId)) :
    sentBy client (front ++ back) =
      sentBy client front ++ sentBy client back :=
  List.flatMap_append

omit [PeerIdentity PeerId] in
theorem sentBy_silent {client : PeerId} {transition : NetworkTransition PeerId}
    (silent : ∀ action, .client client action ∉ transition.actions) :
    sentBy client [transition] = [] := by
  rw [sentBy, List.flatMap_singleton, List.filterMap_eq_nil_iff]
  intro action logged
  cases action with
  | guard guard action => rfl
  | client sender action =>
      cases action with
      | sent receiver requestId request =>
          rw [requestOf, if_neg]
          rintro rfl
          exact silent _ logged
      | _ => rfl

omit [PeerIdentity PeerId] in
/-- A silent transition leaves the stage of a call as it is. -/
theorem CallStage.silent {client guard : PeerId}
    {call last : NetworkTransition PeerId}
    {during : List (NetworkTransition PeerId)} {stage : AuthenticateStage}
    (reached : CallStage parties client guard call during stage)
    (nothing : sentBy client [last] = []) :
    CallStage parties client guard call (during ++ [last]) stage := by
  have kept : sentBy client (call :: (during ++ [last])) =
      sentBy client (call :: during) := by
    rw [← List.cons_append, sentBy_append, nothing, List.append_nil]
  cases reached with
  | connecting sent => exact .connecting (kept.trans sent)
  | initiated sent => exact .initiated (kept.trans sent)
  | answered whole answers sent =>
      rename_i before after answer
      have longer : during ++ [last] = before ++ answer :: (after ++ [last]) :=
        by rw [whole, List.append_assoc, List.cons_append]
      exact .answered longer answers (kept.trans sent)

/-- The move that opens a call leaves it in its first stage. -/
theorem opened_stage {network next : Network PeerId}
    {actions : List (NetworkAction PeerId)} {client guard : PeerId}
    (step : NetworkStep parties network (.call client guard) next actions) :
    ∃ stage, (next.clients client).call = some (guard, stage) ∧
      CallStage parties client guard
        ⟨network, .call client guard, actions, next⟩ [] stage := by
  rcases step.at_client client with ⟨log, move, rfl⟩ | ⟨-, -, elsewhere, -⟩
  · generalize node : next.clients client = reached at move
    cases move with
    | started guard idle =>
        refine ⟨_, rfl, ?_⟩
        rw [authenticate]
        split
        · exact .initiated (by simp [sentBy, requestOf, Swarm.sendRequest])
        · exact .connecting (by simp [sentBy])
  · exact absurd rfl (elsewhere guard)

/-- A step that does not end the call takes it to its next stage. -/
theorem CallStage.step {network next : Network PeerId}
    {event : NetworkEvent PeerId} {actions : List (NetworkAction PeerId)}
    {client guard : PeerId} {call : NetworkTransition PeerId}
    {during : List (NetworkTransition PeerId)} {stage : AuthenticateStage}
    (reached : CallStage parties client guard call during stage)
    (running : (network.clients client).call = some (guard, stage))
    (step : NetworkStep parties network event next actions)
    (unbroken : ¬ CallBoundary client ⟨network, event, actions, next⟩) :
    ∃ stage, (next.clients client).call = some (guard, stage) ∧
      CallStage parties client guard call
        (during ++ [⟨network, event, actions, next⟩]) stage := by
  rcases step.at_client client with ⟨log, move, rfl⟩ | ⟨same, silent, -, -⟩
  · generalize node : next.clients client = after at move
    cases move with
    | started other idle => exact absurd (Or.inl ⟨other, rfl⟩) unbroken
    | dropped => exact absurd (Or.inr (Or.inl rfl)) unbroken
    | initiated other idle =>
        rw [running] at idle
        cases idle
    | observed polled now idle seen =>
        rw [running] at idle
        cases idle
    | resumed polled now called seen justified resumption =>
        rw [running] at called
        cases called
        cases resumption with
        | ignored =>
            exact ⟨stage, rfl, reached.silent (by simp [sentBy])⟩
        | connected dialer =>
            cases reached with
            | connecting sent =>
                refine ⟨_, rfl, .initiated ?_⟩
                rw [← List.cons_append, sentBy_append, sent]
                simp [sentBy, requestOf]
        | challenged signed =>
            cases reached with
            | initiated sent =>
                refine ⟨_, rfl, .answered rfl
                  ⟨⟨_, _, rfl⟩, signed, by simp⟩ ?_⟩
                rw [← List.cons_append, sentBy_append, sent]
                simp [sentBy, requestOf]
        | granted roles =>
            refine absurd (Or.inr (Or.inr (Or.inl ⟨roles, ?_⟩))) unbroken
            exact List.mem_singleton_self _
        | failed error =>
            refine absurd (Or.inr (Or.inr (Or.inr ⟨error, ?_⟩))) unbroken
            exact List.mem_singleton_self _
  · rw [same]
    exact ⟨stage, running, reached.silent (sentBy_silent silent)⟩

/-- An open call is in the stage that what it has sent says. -/
theorem CallOpen.stage {client guard : PeerId}
    {call : NetworkTransition PeerId}
    {front during : List (NetworkTransition PeerId)}
    (opened : CallOpen client guard call during)
    (run : Run (stepNetwork parties) start (front ++ call :: during)
      finish) :
    ∃ stage, (finish.clients client).call = some (guard, stage) ∧
      CallStage parties client guard call during stage := by
  induction during using List.reverseRecOn generalizing finish with
  | nil =>
      rcases run.snoc_inv with ⟨-, taken, rfl⟩
      rcases call with ⟨network, event, actions, next⟩
      have called : event = .call client guard := opened.called
      subst called
      exact opened_stage (stepNetwork_step taken)
  | append_singleton during last induction =>
      rw [← List.cons_append, ← List.append_assoc] at run
      rcases run.snoc_inv with ⟨prior, taken, rfl⟩
      have before : CallOpen client guard call during := by
        refine ⟨opened.called, ?_⟩
        intro transition member
        exact opened.unbroken transition (List.mem_append_left _ member)
      rcases induction before prior with ⟨stage, running, reached⟩
      exact reached.step running (stepNetwork_step taken)
        (opened.unbroken last List.mem_concat_self)

omit [PeerIdentity PeerId] in
/-- A call has sent at most a request for a challenge and one answer. -/
theorem CallStage.sent_within {client guard : PeerId}
    {call : NetworkTransition PeerId}
    {during : List (NetworkTransition PeerId)} {stage : AuthenticateStage}
    (reached : CallStage parties client guard call during stage) :
    ∃ signature timestamp, sentBy client (call :: during) <+:
      [.handshakeInit, .challengeAnswer signature timestamp] := by
  cases reached with
  | connecting sent =>
      rw [sent]
      exact ⟨[], 0, List.nil_prefix⟩
  | initiated sent =>
      rw [sent]
      exact ⟨[], 0, [_], rfl⟩
  | answered whole answers sent =>
      rw [sent]
      exact ⟨_, _, List.prefix_rfl⟩

/-- Nothing is sent where a call ends. -/
theorem sentBy_ending {network next : Network PeerId}
    {event : NetworkEvent PeerId} {actions : List (NetworkAction PeerId)}
    {client guard : PeerId} {stage : AuthenticateStage}
    (running : (network.clients client).call = some (guard, stage))
    (step : NetworkStep parties network event next actions)
    (ends : CallBoundary client ⟨network, event, actions, next⟩) :
    sentBy client [⟨network, event, actions, next⟩] = [] := by
  rcases step.at_client client with ⟨log, move, rfl⟩ | ⟨-, silent, -, -⟩
  · generalize node : next.clients client = after at move
    cases move with
    | started other idle | initiated other idle =>
        rw [running] at idle
        cases idle
    | observed polled now idle seen =>
        rw [running] at idle
        cases idle
    | dropped => simp [sentBy]
    | resumed polled now called seen justified resumption =>
        cases resumption with
        | connected dialer | challenged signed => simp [CallBoundary] at ends
        | ignored | granted roles | failed error => simp [sentBy, requestOf]
  · exact sentBy_silent silent

theorem CallSpan.sent_within {client guard : PeerId}
    {call : NetworkTransition PeerId}
    {front span : List (NetworkTransition PeerId)}
    (spans : CallSpan client guard call span)
    (run : Run (stepNetwork parties) start (front ++ call :: span) finish) :
    ∃ signature timestamp, sentBy client (call :: span) <+:
      [.handshakeInit, .challengeAnswer signature timestamp] := by
  rcases List.eq_nil_or_concat span with rfl | ⟨during, last, rfl⟩
  · have opened : CallOpen client guard call [] := ⟨spans.called, by simp⟩
    rcases opened.stage run with ⟨stage, -, reached⟩
    exact reached.sent_within
  · have opened : CallOpen client guard call during := by
      refine ⟨spans.called, ?_⟩
      simpa using spans.unbroken
    rw [List.concat_eq_append] at run ⊢
    rw [← List.cons_append, ← List.append_assoc] at run
    rcases run.snoc_inv with ⟨prior, taken, rfl⟩
    rcases opened.stage prior with ⟨stage, running, reached⟩
    by_cases ends : CallBoundary client last
    · have nothing := sentBy_ending running (stepNetwork_step taken) ends
      exact (reached.silent nothing).sent_within
    · rcases reached.step running (stepNetwork_step taken) ends with
        ⟨later, -, onwards⟩
      exact onwards.sent_within

/-- A call under way was opened in the run, and is open since. -/
theorem exists_callOpen (fresh : Fresh start)
    (run : Run (stepNetwork parties) start trace finish)
    {client guard : PeerId} {stage : AuthenticateStage}
    (running : (finish.clients client).call = some (guard, stage)) :
    ∃ front call during, trace = front ++ call :: during ∧
      CallOpen client guard call during := by
  induction run generalizing stage with
  | start =>
      rw [fresh.noCalls] at running
      cases running
  | snoc prior taken induction =>
      rename_i trace network event actions next
      have longer : ∀ stage, (network.clients client).call =
          some (guard, stage) →
            ¬ CallBoundary client ⟨network, event, actions, next⟩ →
              ∃ front call during,
                trace ++ [⟨network, event, actions, next⟩] =
                    front ++ call :: during ∧
                  CallOpen client guard call during := by
        intro stage before unbroken
        rcases induction before with ⟨front, call, during, rfl, opened⟩
        refine ⟨front, call, during ++ [⟨network, event, actions, next⟩],
          by simp, opened.called, ?_⟩
        intro transition member
        rcases List.mem_append.mp member with old | new
        · exact opened.unbroken transition old
        · rw [List.mem_singleton.mp new]
          exact unbroken
      rcases (stepNetwork_step taken).at_client client with
        ⟨log, move, rfl⟩ | ⟨same, silent, noCall, noDrop⟩
      · generalize node : next.clients client = reached at move running
        cases move with
        | started other idle =>
            cases running
            exact ⟨trace, _, [], rfl, rfl, by simp⟩
        | dropped => cases running
        | initiated other idle =>
            rw [show _ = none from idle] at running
            cases running
        | observed polled now idle seen =>
            rw [show _ = none from idle] at running
            cases running
        | resumed polled now called seen justified resumption =>
            cases resumption with
            | granted roles => cases running
            | failed error => cases running
            | ignored =>
                cases running
                exact longer _ called (by simp [CallBoundary])
            | connected dialer =>
                cases running
                exact longer _ called (by simp [CallBoundary])
            | challenged signed =>
                cases running
                exact longer _ called (by simp [CallBoundary])
      · rw [same] at running
        apply longer stage running
        rintro (⟨other, called⟩ | dropped | ⟨roles, logged⟩ | ⟨error, logged⟩)
        · exact noCall other called
        · exact noDrop dropped
        · exact silent _ logged
        · exact silent _ logged

/-- An answer is sent by a call that receives a challenge of its Guard. -/
theorem NetworkStep.answered {network next : Network PeerId}
    {event : NetworkEvent PeerId} {actions : List (NetworkAction PeerId)}
    (step : NetworkStep parties network event next actions)
    {client guard : PeerId} {requestId : Nat} {signature : List UInt8}
    {timestamp : UInt64}
    (logged : .client client
      (.sent guard requestId (.challengeAnswer signature timestamp)) ∈
        actions) :
    (∃ awaiting, (network.clients client).call =
        some (guard, .awaiting awaiting false)) ∧
      ¬ CallBoundary client ⟨network, event, actions, next⟩ ∧
        ∃ nonce, AnswersChallenge parties client guard requestId signature
          timestamp nonce ⟨network, event, actions, next⟩ := by
  cases step with
  | client honest move =>
      rcases List.mem_map.mp logged with ⟨action, member, same⟩
      cases same
      cases move with
      | started other idle => cases (authenticate_sent member).2.1
      | dropped => cases member
      | initiated other idle => cases List.mem_singleton.mp member
      | observed polled now idle seen => cases member
      | resumed polled now running seen justified resumption =>
          cases resumption with
          | ignored => cases member
          | connected dialer => cases List.mem_singleton.mp member
          | granted roles => cases List.mem_singleton.mp member
          | failed error => cases List.mem_singleton.mp member
          | challenged signed =>
              cases List.mem_singleton.mp member
              exact ⟨⟨_, running⟩, by simp [CallBoundary], _, ⟨_, _, rfl⟩,
                signed, logged⟩
  | inject envelope foreign => cases logged
  | deliver honest received step => simp at logged
  | guard other step => simp at logged

/-- An answer on the network was sent in a call to its receiver. -/
theorem answered_in_call (fresh : Fresh start)
    (run : Run (stepNetwork parties) start trace finish)
    {client guard : PeerId} {requestId : Nat} {signature : List UInt8}
    {timestamp : UInt64} (honest : parties.isClient client = true)
    (present : ⟨client, guard, requestId,
      .challengeAnswer signature timestamp⟩ ∈ finish.requests) :
    ∃ front call before answer after nonce,
      trace = front ++ call :: (before ++ answer :: after) ∧
        CallOpen client guard call (before ++ [answer]) ∧
          AnswersChallenge parties client guard requestId signature timestamp
            nonce answer := by
  induction run with
  | start =>
      rw [fresh.noRequests] at present
      cases present
  | snoc prior taken induction =>
      rename_i trace network event actions next
      rcases (stepNetwork_step taken).requests with ⟨new, extended, sent⟩
      rw [extended] at present
      rcases List.mem_append.mp present with old | recent
      · rcases induction old with
          ⟨front, call, before, answer, after, nonce, rfl, facts⟩
        exact ⟨front, call, before, answer,
          after ++ [⟨network, event, actions, next⟩], nonce, by simp, facts⟩
      · rcases (stepNetwork_step taken).answered (sent _ recent honest) with
          ⟨⟨awaiting, running⟩, unbroken, nonce, answers⟩
        rcases exists_callOpen fresh prior running with
          ⟨front, call, during, rfl, opened⟩
        refine ⟨front, call, during, _, [], nonce, by simp,
          ⟨opened.called, ?_⟩, answers⟩
        intro transition member
        rcases List.mem_append.mp member with old | new
        · exact opened.unbroken transition old
        · rw [List.mem_singleton.mp new]
          exact unbroken

end Run

/-! ## Agreement -/

/-- The Guard grants the peer's answer with these roles. -/
structure GrantsAnswer (client guard : PeerId) (roles : List String)
    (requestId : Nat) (signature : List UInt8) (timestamp : UInt64)
    (verify : NetworkTransition PeerId) : Prop where
  received : ∃ channel channelOpen now nonce,
    verify.event = .deliver channel channelOpen now nonce ∧
      verify.before.requests[channel]? =
        some ⟨client, guard, requestId, .challengeAnswer signature timestamp⟩
  granted : .guard guard (.verified client (.granted roles)) ∈ verify.actions

/-- In the call still open, the client answered, and the Guard granted that. -/
def GrantedDuringCall (parties : Parties PeerId) (client guard : PeerId)
    (roles : List String) (trace : List (NetworkTransition PeerId)) : Prop :=
  ∃ front call before answer between verify after requestId signature
      timestamp nonce,
    trace = front ++ call :: (before ++ answer ::
        (between ++ verify :: after)) ∧
      CallOpen client guard call
        (before ++ answer :: (between ++ verify :: after)) ∧
        AnswersChallenge parties client guard requestId signature timestamp
          nonce answer ∧
          GrantsAnswer client guard roles requestId signature timestamp
            verify

/-- What the Guard grants, the client answered in a call to that Guard, with
the nonce that is pending there. -/
def AnsweredInCall (parties : Parties PeerId) (client guard : PeerId)
    (roles : List String) (trace : List (NetworkTransition PeerId))
    (verify : NetworkTransition PeerId) : Prop :=
  ∃ front call before answer after requestId signature timestamp nonce
      challenge,
    trace = front ++ call :: (before ++ answer :: after) ∧
      CallOpen client guard call (before ++ [answer]) ∧
        AnswersChallenge parties client guard requestId signature timestamp
          nonce answer ∧
          GrantsAnswer client guard roles requestId signature timestamp
            verify ∧
            (verify.before.guards guard).authenticator.pending.lookup client =
              some challenge ∧
              challenge.nonce = nonce

/-- A signature of an honest client verifies only for what it signed. -/
def SignaturesBind (parties : Parties PeerId) : Prop :=
  ∀ client, parties.isClient client = true →
    ∀ key payload other signature, publicKeyOf client = some key →
      parties.sign client payload = some signature →
        PeerIdentity.verify key other signature = true → other = payload

section Agreement

variable {parties : Parties PeerId} {start finish : Network PeerId}

/-- A call returns roles only on a response to the answer it awaits. -/
theorem NetworkStep.authenticated {network next : Network PeerId}
    {event : NetworkEvent PeerId} {actions : List (NetworkAction PeerId)}
    (step : NetworkStep parties network event next actions)
    {client : PeerId} {roles : List String}
    (logged : .client client (.authenticated roles) ∈ actions) :
    parties.isClient client = true ∧
      ∃ guard requestId,
        (network.clients client).call =
            some (guard, .awaiting requestId true) ∧
          network.justified parties client
            (.response guard requestId (.accessGranted roles)) = true := by
  cases step with
  | client honest move =>
      rcases List.mem_map.mp logged with ⟨action, member, same⟩
      cases same
      refine ⟨honest, ?_⟩
      cases move with
      | started guard idle =>
          rw [authenticate] at member
          split at member
          · cases List.mem_singleton.mp member
          · cases member
      | dropped => cases member
      | initiated guard idle => cases List.mem_singleton.mp member
      | observed polled now idle seen => cases member
      | resumed polled now running seen justified resumption =>
          cases resumption with
          | ignored => cases member
          | connected dialer => cases List.mem_singleton.mp member
          | challenged signed => cases List.mem_singleton.mp member
          | failed error => cases List.mem_singleton.mp member
          | granted granted =>
              cases List.mem_singleton.mp member
              exact ⟨_, _, running, justified⟩
  | inject envelope foreign => cases logged
  | deliver honest received step => simp at logged
  | guard other step => simp at logged

omit [PeerIdentity PeerId] in
/-- A justified response of an honest Guard answers the client's request. -/
theorem justified_response {network : Network PeerId} {client guard : PeerId}
    {requestId : Nat} {response : NuxResponse}
    (honest : parties.isGuard guard = true)
    (justified : network.justified parties client
      (.response guard requestId response) = true) :
    ∃ channel request, (channel, response) ∈ network.responses ∧
      network.requests[channel]? =
        some ⟨client, guard, requestId, request⟩ := by
  rw [Network.justified, if_pos honest] at justified
  rcases List.any_eq_true.mp justified with ⟨⟨channel, sent⟩, member, matched⟩
  simp only [decide_eq_true_eq, Option.any_eq_true] at matched
  rcases matched with ⟨rfl, envelope, present, meant⟩
  simp only [asked, decide_eq_true_eq] at meant
  rcases meant with ⟨rfl, rfl, rfl⟩
  exact ⟨channel, envelope.request, member, present⟩

/-- A granted answer on this channel is what the client's request says. -/
theorem verify_of_response {verify : NetworkTransition PeerId}
    (taken : stepNetwork parties verify.before verify.event =
      some (verify.after, verify.actions))
    {client guard : PeerId} {requestId channel : Nat} {request : NuxRequest}
    {roles : List String} {channelOpen : Bool} {now : UInt64} {nonce : Nonce}
    (handled : verify.event = .deliver channel channelOpen now nonce)
    (received : verify.before.requests[channel]? =
      some ⟨client, guard, requestId, request⟩)
    (announced : .guard guard
        (.respond client channel (.accessGranted roles)) ∈ verify.actions) :
    ∃ signature timestamp,
      request = .challengeAnswer signature timestamp ∧
        GrantsAnswer client guard roles requestId signature timestamp
          verify := by
  have granted := (stepNetwork_step taken).access_granted announced
  rcases (stepNetwork_step taken).granted granted with
    ⟨_, _, _, _, _, signature, timestamp, _, same, present, -, -⟩
  rw [handled] at same
  cases same
  rw [received] at present
  cases present
  exact ⟨signature, timestamp, rfl, ⟨channel, channelOpen, now, nonce, handled,
    received⟩, granted⟩

theorem granted_during_call {earlier : List (NetworkTransition PeerId)}
    {last : NetworkTransition PeerId} (fresh : Fresh start)
    (prior : Run (stepNetwork parties) start earlier last.before)
    (taken : stepNetwork parties last.before last.event =
      some (last.after, last.actions))
    {client guard : PeerId} {stage : AuthenticateStage} {roles : List String}
    (honestGuard : parties.isGuard guard = true)
    (running : (last.before.clients client).call = some (guard, stage))
    (returned : .client client (.authenticated roles) ∈ last.actions) :
    GrantedDuringCall parties client guard roles earlier := by
  rcases (stepNetwork_step taken).authenticated returned with
    ⟨honest, _, requestId, awaiting, justified⟩
  rw [running] at awaiting
  cases awaiting
  rcases justified_response honestGuard justified with
    ⟨channel, request, responded, requested⟩
  -- The answer of the open call.
  rcases exists_callOpen fresh prior running with
    ⟨front, call, during, rfl, opened⟩
  rcases opened.stage prior with ⟨_, same, reached⟩
  rw [running] at same
  cases same
  cases reached with
  | answered whole answers sent =>
  rename_i signature timestamp nonce before after answer
  subst whole
  have atAnswer : front ++ call :: (before ++ answer :: after) =
      (front ++ call :: before) ++ answer :: after := by simp
  rw [atAnswer] at prior
  rcases prior.transition with ⟨untilAnswer, answered, sinceAnswer⟩
  rcases (stepNetwork_step answered).sent answers.sent with
    ⟨freshId, -, -, entered⟩
  -- The verdict the response came from, on the same request.
  rcases response_given fresh prior responded with
    ⟨front', verify, later, split, channelOpen, now, drawn, envelope, handled,
      received, announced⟩
  have untilVerify := prior
  rw [split] at untilVerify
  rcases untilVerify.transition with ⟨-, verified, sinceVerify⟩
  have sameEnvelope : envelope = ⟨client, guard, requestId, request⟩ :=
    Option.some.inj ((request_kept (sinceVerify.cons verified)
      received).symm.trans requested)
  subst sameEnvelope
  rcases verify_of_response verified handled received announced with
    ⟨signature', timestamp', rfl, grants⟩
  have numbered := requestsNumbered_of_run fresh prior
  have sameAnswer := numbered.unique _
    ((requests_extended sinceAnswer).subset entered) _
    (List.mem_of_getElem? requested) honest rfl rfl
  cases sameAnswer
  -- The request was not yet on the network before the answer.
  rcases append_cons_eq_append_cons_cases split with
    ⟨between, -, rfl⟩ | same | ⟨between, shorter⟩
  · exact ⟨front, call, before, answer, between, verify, later, requestId,
      signature, timestamp, nonce, rfl, opened, answers, grants⟩
  · rcases answers.received with ⟨_, _, polled⟩
    rw [same, handled] at polled
    cases polled
  · rw [shorter] at untilAnswer
    rcases untilAnswer.transition with ⟨-, again, onwards⟩
    have early := request_kept (onwards.cons again) received
    have below := (requestsNumbered_of_run fresh untilAnswer).below _
      (List.mem_of_getElem? early) honest
    exact absurd freshId below.ne

theorem answered_in_call_of_granted
    {earlier : List (NetworkTransition PeerId)}
    {verify : NetworkTransition PeerId} (fresh : Fresh start)
    (binds : SignaturesBind parties)
    (prior : Run (stepNetwork parties) start earlier verify.before)
    (taken : stepNetwork parties verify.before verify.event =
      some (verify.after, verify.actions))
    {client guard : PeerId} {roles : List String}
    (honest : parties.isClient client = true)
    (granted : .guard guard (.verified client (.granted roles)) ∈
      verify.actions) :
    AnsweredInCall parties client guard roles earlier verify := by
  rcases (stepNetwork_step taken).granted granted with
    ⟨channel, channelOpen, now, drawn, requestId, signature, timestamp,
      challenge, handled, received, pending, acceptable⟩
  rcases answered_in_call fresh prior honest (List.mem_of_getElem? received)
    with ⟨front, call, before, answer, after, nonce, whole, opened, answers⟩
  refine ⟨front, call, before, answer, after, requestId, signature, timestamp,
    nonce, challenge, whole, opened, answers,
    ⟨⟨channel, channelOpen, now, drawn, handled, received⟩, granted⟩, pending,
    ?_⟩
  rcases acceptable.signed with ⟨key, inlined, verifies⟩
  have samePayload := binds client honest key _ _ _ inlined answers.signed
    verifies
  exact challengePayload_nonce (Vector.toList_inj.mp samePayload)

/--
In every run of the network: (a) a call of an honest Guard that returns roles
was granted exactly these by the Guard, on the answer it sent, while it was
open; (b) what an honest Guard grants an honest client was sent by a call to
that Guard, in answer to a challenge of that Guard, with the pending nonce;
(c) a call sends, up to its end, at most a request for a challenge and then one
answer.
-/
theorem handshake_agreement {trace : List (NetworkTransition PeerId)}
    (fresh : Fresh start) (binds : SignaturesBind parties)
    (run : Run (stepNetwork parties) start trace finish) :
    (∀ earlier last later client guard stage roles,
      trace = earlier ++ last :: later → parties.isGuard guard = true →
        (last.before.clients client).call = some (guard, stage) →
          .client client (.authenticated roles) ∈ last.actions →
            GrantedDuringCall parties client guard roles earlier) ∧
      (∀ earlier verify later client guard roles,
        trace = earlier ++ verify :: later →
          parties.isClient client = true →
            .guard guard (.verified client (.granted roles)) ∈
                verify.actions →
              AnsweredInCall parties client guard roles earlier verify) ∧
        ∀ front call span rest client guard,
          trace = (front ++ call :: span) ++ rest →
            CallSpan client guard call span →
              ∃ signature timestamp, sentBy client (call :: span) <+:
                [.handshakeInit, .challengeAnswer signature timestamp] := by
  refine ⟨?_, ?_, ?_⟩
  · rintro earlier last later client guard stage roles rfl honest running
      returned
    rcases run.transition with ⟨prior, taken, -⟩
    exact granted_during_call fresh prior taken honest running returned
  · rintro earlier verify later client guard roles rfl honest granted
    rcases run.transition with ⟨prior, taken, -⟩
    exact answered_in_call_of_granted fresh binds prior taken honest granted
  · rintro front call span rest client guard rfl spans
    rcases run.split with ⟨middle, untilHere, -⟩
    exact spans.sent_within untilHere

end Agreement

section SmallNetwork

open SmallGuard

/-- One client and one Guard, which lists it. -/
def smallParties : Parties BytePeer where
  isClient party := party = peer
  isGuard party := party = ⟨2⟩
  sign party payload := some (party.sign payload)
  registry _ := registry

/-- Nobody is connected and nothing is under way. -/
def smallNetwork : Network BytePeer where
  clients _ := ⟨⟨fun _ => 0, fun _ => 0, 0⟩, none⟩
  guards _ := SmallGuard.start
  requests := []
  responses := []

theorem smallParties_bind : SignaturesBind smallParties := by
  intro client _ key payload other signature inlined signed verifies
  cases inlined
  cases signed
  have same := of_decide_eq_true verifies
  exact (List.cons.inj same).2.symm

/-- A handshake without interference. -/
def undisturbed : List (NetworkEvent BytePeer) :=
  [.call peer ⟨2⟩, .poll peer (.connectionEstablished ⟨2⟩ false) 0,
    .deliver 0 true 0 nonce,
    .poll peer (.response ⟨2⟩ 0 (.challenge nonce 0)) 0,
    .deliver 1 true 0 nonce,
    .poll peer (.response ⟨2⟩ 1 (.accessGranted ["reader"])) 0]

/-- The Guard grants, and then the call returns. -/
def completes : List (NetworkTransition BytePeer) → Bool
  | [_, _, _, _, verify, last] =>
      decide ((last.before.clients peer).call =
          some (⟨2⟩, .awaiting 1 true)) &&
        (decide (.client peer (.authenticated ["reader"]) ∈ last.actions) &&
          decide (.guard ⟨2⟩ (.verified peer (.granted ["reader"])) ∈
            verify.actions))
  | _ => false

theorem handshake_agreement_small :
    ∃ earlier verify last finish,
      Run (stepNetwork smallParties) smallNetwork (earlier ++ [verify, last])
        finish ∧
      (earlier ++ [verify, last]).map Transition.event = undisturbed ∧
      GrantedDuringCall smallParties peer ⟨2⟩ ["reader"]
        (earlier ++ [verify]) ∧
      AnsweredInCall smallParties peer ⟨2⟩ ["reader"] earlier verify := by
  have computed : (execute (stepNetwork smallParties) smallNetwork
      undisturbed).any
      (fun result => completes result.1) = true := by
    decide +kernel
  rcases exists_run_of_any computed with ⟨trace, finish, run, events, observed⟩
  dsimp only at observed
  unfold completes at observed
  split at observed
  · rename_i first second third fourth verify last
    simp only [Bool.and_eq_true, decide_eq_true_eq] at observed
    rcases observed with ⟨running, returned, granted⟩
    have fresh : Fresh smallNetwork := ⟨rfl, rfl, fun _ => rfl⟩
    have agreement := handshake_agreement fresh smallParties_bind run
    refine ⟨[first, second, third, fourth], verify, last, finish, run, events,
      ?_, ?_⟩
    · exact agreement.1 _ last [] peer ⟨2⟩ _ ["reader"] rfl rfl running
        returned
    · exact agreement.2.1 _ verify [last] peer ⟨2⟩ ["reader"] rfl rfl granted
  · cases observed

end SmallNetwork

end NuxAuth.Core
