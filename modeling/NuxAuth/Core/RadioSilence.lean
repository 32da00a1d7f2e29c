import NuxAuth.Core.Isolation
import NuxAuth.Core.Reload

/-!
# Radio silence

A peer outside the whitelist meets the same silence whatever the Guard is: which
peers it admits, what they do, which services it exposes and which commands it
receives leave no trace in what such a peer can observe.  One thing does: a
stream that arrives while the Guard stops is dropped, and its connection is
not cut.
-/

namespace NuxAuth.Core

open NuxAuth.Lib.FiniteTable
open NuxAuth.Lib.LocalView
open NuxAuth.Lib.RecordedRun
open GuardLoop GuardAuthenticator

variable {PeerId : Type} [DecidableEq PeerId]

/-! ## What leaves the Guard -/

/-- What a peer sends and does. -/
inductive StrangerEvent where
  | connected
  | closed (rank : Nat)
  | requested (channel : Nat) (request : NuxRequest)
  | stream (rank : Nat)
deriving DecidableEq

/-- What reaches a peer. -/
inductive WireReaction where
  | response (channel : Nat) (response : NuxResponse)
  | disconnect
  | tunnel (action : ServeAction)
deriving DecidableEq

/-- A peer sees neither the Guard's clock nor its nonces nor its commands. -/
def PeerEvent.onWire : PeerEvent PeerId → Option StrangerEvent
  | .connected => some .connected
  | .closed rank => some (.closed rank)
  | .asked channel _ _ _ => some (.requested channel .handshakeInit)
  | .answered channel _ signature timestamp _ =>
      some (.requested channel (.challengeAnswer signature timestamp))
  | .stream rank => some (.stream rank)
  | .taskEnded _ => none
  | .control _ _ => none

/-- What the peer does on the wire in a step. -/
def strangerEvent (peer : PeerId) (transition : GuardTransition PeerId) :
    Option StrangerEvent :=
  (peerEvent peer transition).bind PeerEvent.onWire

/-- What an action lets the peer see. -/
def wireReactionOf (peer : PeerId) : GuardAction PeerId → Option WireReaction
  | .respond receiver channel response =>
      if receiver = peer then some (.response channel response) else none
  | .disconnect target => if target = peer then some .disconnect else none
  | .served _ owner action =>
      if owner = peer then some (.tunnel action) else none
  | _ => none

/-- All that the peer sees of a step. -/
def wireLog (peer : PeerId) (transition : GuardTransition PeerId) :
    List WireReaction :=
  transition.actions.filterMap (wireReactionOf peer)

/-- Silence: the connection is cut, and nothing else happens. -/
def silentMachine (phases : List ConnectionPhase) :
    StrangerEvent → List ConnectionPhase × List WireReaction
  | .connected => (phases ++ [.established], [])
  | .closed rank => (phases.set rank .closed, [])
  | .requested _ _ =>
      (phases.map ConnectionPhase.orderClosed, [.disconnect])
  | .stream _ => (phases.map ConnectionPhase.orderClosed, [.disconnect])

/-- A peer outside the whitelist as a party of the loop. -/
def strangerOf (peer : PeerId) :
    Party (GuardLoop PeerId) (GuardEvent PeerId) (GuardAction PeerId)
      (List ConnectionPhase) StrangerEvent WireReaction where
  view loop := phasesOf peer loop.connections
  event := strangerEvent peer
  log := wireLog peer
  machine := silentMachine

/-! ## A peer outside the whitelist gets nowhere -/

/-- Nothing that a whitelist entry would have brought the peer. -/
structure Outside (peer : PeerId) (loop : GuardLoop PeerId) : Prop where
  pending : loop.authenticator.pending.lookup peer = none
  session : loop.authenticator.sessions.lookup peer = none
  tasks : ∀ id task, loop.tasks.lookup id = some task → task.peer ≠ peer

/-- The peer is in the whitelist at none of these transitions. -/
def Unlisted [PeerIdentity PeerId] (peer : PeerId)
    (trace : List (GuardTransition PeerId)) : Prop :=
  ∀ transition ∈ trace,
    transition.before.authenticator.whitelist.roles peer = none

section Step

variable [PeerIdentity PeerId] {registry : TunnelRegistry PeerId}
    {peer : PeerId} {loop next : GuardLoop PeerId}
    {event : GuardEvent PeerId} {actions : List (GuardAction PeerId)}

omit [PeerIdentity PeerId] in
theorem outside_start (whitelist : Whitelist PeerId) (control : Bool)
    (metrics : Metrics) (connections : List (Connection PeerId)) :
    Outside peer (GuardLoop.start (GuardAuthenticator.new whitelist) registry
      control metrics connections) where
  pending := rfl
  session := rfl
  tasks := by
    intro id task present
    cases present

/-- Only a listed peer is issued a challenge. -/
theorem GuardStep.issued_listed
    (step : GuardStep registry loop event next actions)
    {response : NuxResponse} (logged : .issued peer response ∈ actions) :
    ∃ roles, loop.authenticator.whitelist.roles peer = some roles := by
  have notControl := step.not_control logged (by simp) (by simp)
  cases step with
  | challenged challenged channel channelOpen now nonce serving listed =>
      simp only [List.mem_cons, GuardAction.issued.injEq, mem_sendResponse_iff,
        reduceCtorEq, and_false, or_false] at logged
      rcases logged with ⟨rfl, rfl⟩
      exact ⟨_, listed⟩
  | revoked | reloaded => exact absurd rfl (notControl _ _)
  | _ => simp at logged

theorem Outside.step (outside : Outside peer loop)
    (unlisted : loop.authenticator.whitelist.roles peer = none)
    (step : GuardStep registry loop event next actions) :
    Outside peer next := by
  refine ⟨?_, ?_, ?_⟩
  · by_contra some
    rcases Option.ne_none_iff_exists'.mp some with ⟨challenge, pending⟩
    rcases step.pending_origin pending with before | issued
    · rw [outside.pending] at before
      cases before
    · rcases step.issued_listed issued with ⟨roles, listed⟩
      rw [unlisted] at listed
      cases listed
  · by_contra some
    rcases Option.ne_none_iff_exists'.mp some with ⟨roles, session⟩
    rcases step.session_gained ⟨roles, session⟩ with ⟨before, had⟩ | ⟨_, granted⟩
    · rw [outside.session] at had
      cases had
    · rcases step.granted_answer granted with
        ⟨_, _, _, _, _, _, challenge, -, pending, -⟩
      rw [outside.pending] at pending
      cases pending
  · intro id task present same
    cases step.task_origin present with
    | kept before elsewhere => exact outside.tasks id task before same
    | resumed old resumption done before here continued moved =>
        rw [moved] at same
        exact outside.tasks id old before same
    | admitted admitted =>
        have authorized := admitted.authorized
        rw [same] at authorized
        rcases (sessionRoles_eq_some_iff.mp authorized).1 with ⟨roles, session⟩
        rw [outside.session] at session
        cases session

end Step

/-! ## Silence, transition by transition -/

/-- What the loop as a peer meets it says to a peer outside. -/
def PeerReaction.onWire : PeerReaction → Option WireReaction
  | .respond channel response => some (.response channel response)
  | .disconnect => some .disconnect
  | _ => none

section Explained

variable [PeerIdentity PeerId] {registry : TunnelRegistry PeerId}
    {peer : PeerId} {loop next : GuardLoop PeerId}
    {event : GuardEvent PeerId} {actions : List (GuardAction PeerId)}

/-- No task of the peer runs, so only the loop itself can answer it. -/
theorem wireLog_eq (outside : Outside peer loop)
    (step : GuardStep registry loop event next actions) :
    wireLog peer ⟨loop, event, actions, next⟩ =
      (peerLog peer ⟨loop, event, actions, next⟩).filterMap
        PeerReaction.onWire := by
  rw [wireLog, peerLog, List.filterMap_filterMap]
  apply List.filterMap_congr
  intro action member
  cases action with
  | served id owner action =>
      have other : owner ≠ peer := by
        rintro rfl
        rcases step.served member with ⟨task, _, _, _, found, same, -⟩
        exact outside.tasks id task found same
      simp [wireReactionOf, reactionOf, other]
  | spawned id owner =>
      by_cases same : owner = peer
      · cases found : next.tasks.lookup id with
        | none => simp [wireReactionOf, reactionOf, same, found]
        | some task =>
            simp [wireReactionOf, reactionOf, same, found, PeerReaction.onWire]
      · simp [wireReactionOf, reactionOf, same]
  | issued receiver challenge =>
      by_cases same : receiver = peer <;>
        simp [wireReactionOf, reactionOf, same, PeerReaction.onWire]
  | verified sender outcome =>
      by_cases same : sender = peer <;>
        simp [wireReactionOf, reactionOf, same, PeerReaction.onWire]
  | respond receiver channel response =>
      by_cases same : receiver = peer <;>
        simp [wireReactionOf, reactionOf, same, PeerReaction.onWire]
  | disconnect target =>
      by_cases same : target = peer <;>
        simp [wireReactionOf, reactionOf, same, PeerReaction.onWire]
  | sessionEnded target =>
      by_cases same : target = peer <;>
        simp [wireReactionOf, reactionOf, same, PeerReaction.onWire]
  | revoked target =>
      by_cases same : target = peer <;>
        simp [wireReactionOf, reactionOf, same, PeerReaction.onWire]
  | finished id => rfl

end Explained

section Machine

variable [PeerIdentity PeerId] {cap : Nat} {peer : PeerId} {view : PeerView}
    {happened : PeerEvent PeerId}

/-- Commands say nothing to a peer without a session. -/
theorem obey_outside (session : view.session = none)
    (command : GuardControl PeerId) :
    (view.obey peer command).1.phases = view.phases ∧
      (view.obey peer command).2.filterMap PeerReaction.onWire = [] := by
  have revoked : view.revoke.1.phases = view.phases ∧
      view.revoke.2.filterMap PeerReaction.onWire = [] := by
    simp [PeerView.revoke, session, PeerReaction.onWire]
  cases command with
  | revoke target =>
      by_cases same : target = peer
      · simpa [PeerView.obey, same] using revoked
      · simp [PeerView.obey, same]
  | allow target roles =>
      by_cases same : target = peer <;> simp [PeerView.obey, same]
  | reloadWhitelist newWhitelist => simp [PeerView.obey, session]
  | shutdown gracePeriod => exact ⟨rfl, rfl⟩

/-- What a peer outside does not see leaves its connections alone. -/
theorem peerMachine_hidden (session : view.session = none)
    (hidden : happened.onWire = none) :
    (peerMachine cap peer view happened).1.phases = view.phases ∧
      (peerMachine cap peer view happened).2.filterMap
        PeerReaction.onWire = [] := by
  cases happened with
  | taskEnded rank => exact ⟨rfl, rfl⟩
  | control command now => exact obey_outside session command
  | connected => cases hidden
  | closed rank => cases hidden
  | asked channel channelOpen now nonce => cases hidden
  | answered channel channelOpen signature timestamp now => cases hidden
  | stream rank => cases hidden

/-- What it does see is answered by silence. -/
theorem peerMachine_silent (roles : view.roles = none)
    (pending : view.pending = none) (session : view.session = none)
    {shown : StrangerEvent} (visible : happened.onWire = some shown)
    (serving : (∃ rank, shown = .stream rank) → view.stopping = false) :
    silentMachine view.phases shown =
      ((peerMachine cap peer view happened).1.phases,
        (peerMachine cap peer view happened).2.filterMap
          PeerReaction.onWire) := by
  cases happened with
  | connected =>
      cases visible
      rfl
  | closed rank =>
      cases visible
      simp only [silentMachine, peerMachine, PeerView.close]
      split <;> rfl
  | asked channel channelOpen now nonce =>
      cases visible
      simp [silentMachine, peerMachine, PeerView.ask, roles,
        PeerView.disconnect, PeerReaction.onWire]
  | answered channel channelOpen signature timestamp now =>
      cases visible
      simp only [silentMachine, peerMachine, PeerView.answer,
        PeerView.accepts, pending, Option.bind_none]
      rfl
  | stream rank =>
      cases visible
      simp only [peerMachine,
        PeerView.stream_of_unauthenticated (serving ⟨rank, rfl⟩)
          (Or.inl session)]
      rfl
  | taskEnded rank => cases visible
  | control command now => cases visible

end Machine

/-! ## Over whole runs -/

section Runs

variable [PeerIdentity PeerId] {registry : TunnelRegistry PeerId}
    {peer : PeerId} {whitelist : Whitelist PeerId} {control : Bool}
    {metrics : Metrics} {connections : List (Connection PeerId)}
    {trace : List (GuardTransition PeerId)} {finish : GuardLoop PeerId}

theorem outside_of_run
    (run : Run (runGuardLoop registry)
      (GuardLoop.start (GuardAuthenticator.new whitelist) registry control
        metrics connections) trace finish)
    (unlisted : Unlisted peer trace) : Outside peer finish := by
  induction run with
  | start => exact outside_start whitelist control metrics connections
  | snoc prior taken induction =>
      have before := induction fun transition member =>
        unlisted transition (List.mem_append_left _ member)
      exact before.step (unlisted _ List.mem_concat_self)
        (runGuardLoop_step taken)

/-- The peer opens no stream while the Guard stops. -/
def StreamsServed (peer : PeerId) (trace : List (GuardTransition PeerId)) :
    Prop :=
  ∀ transition ∈ trace, ∀ rank,
    strangerEvent peer transition = some (.stream rank) →
      transition.before.shutdownDeadline = none

theorem stranger_explained
    (run : Run (runGuardLoop registry)
      (GuardLoop.start (GuardAuthenticator.new whitelist) registry control
        metrics connections) trace finish)
    (unlisted : Unlisted peer trace) (served : StreamsServed peer trace) :
    ∀ transition ∈ trace, (strangerOf peer).Explains transition := by
  have permitted : ∀ transition ∈ trace,
      ¬ LacksGlobalPermit registry peer transition := by
    rintro transition member ⟨_, _, roles, _, _, _, _, _, _, authorized, -⟩
    have listed := (sessionRoles_eq_some_iff.mp authorized).2
    rw [unlisted transition member] at listed
    cases listed
  intro transition member
  have explained := explained_of_run run permitted transition member
  rcases List.append_of_mem member with ⟨earlier, later, rfl⟩
  rcases run.transition with ⟨prior, taken, -⟩
  have outside := outside_of_run prior fun other before =>
    unlisted other (List.mem_append_left _ before)
  have roles := unlisted transition member
  have log := wireLog_eq outside (runGuardLoop_step taken)
  rcases transition with ⟨before, event, actions, after⟩
  cases happened : peerEvent peer ⟨before, event, actions, after⟩ with
  | none =>
      rcases explained.hidden happened with ⟨view, quiet⟩
      refine Party.explains_of_hidden ?_ (congrArg PeerView.phases view) ?_
      · simp [strangerOf, strangerEvent, happened]
      · have nothing : peerLog peer ⟨before, event, actions, after⟩ = [] :=
          quiet
        rw [nothing] at log
        exact log
  | some here =>
      have moved := explained.visible here happened
      have session : (viewOf peer before).session = none := outside.session
      have phases : (viewOf peer after).phases =
          ((peerMachine registry.maxStreamsPerPeer peer (viewOf peer before)
            here).1).phases :=
        congrArg (fun result => result.1.phases) moved.symm
      have logged : peerLog peer ⟨before, event, actions, after⟩ =
          (peerMachine registry.maxStreamsPerPeer peer (viewOf peer before)
            here).2 :=
        congrArg Prod.snd moved.symm
      rw [logged] at log
      cases shown : here.onWire with
      | none =>
          rcases peerMachine_hidden session shown with ⟨same, quiet⟩
          refine Party.explains_of_hidden ?_ (phases.trans same)
            (log.trans quiet)
          simp [strangerOf, strangerEvent, happened, shown]
      | some met =>
          have seen : strangerEvent peer ⟨before, event, actions, after⟩ =
              some met := by
            simp [strangerEvent, happened, shown]
          have serving : (∃ rank, met = .stream rank) →
              (viewOf peer before).stopping = false := by
            rintro ⟨rank, rfl⟩
            have deadline := served _ member rank seen
            simp only at deadline
            simp [viewOf, deadline]
          have silent : silentMachine (viewOf peer before).phases met =
              ((peerMachine registry.maxStreamsPerPeer peer
                  (viewOf peer before) here).1.phases,
                (peerMachine registry.maxStreamsPerPeer peer
                  (viewOf peer before) here).2.filterMap
                    PeerReaction.onWire) :=
            peerMachine_silent roles outside.pending session shown serving
          exact Party.explains_of_visible seen
            (silent.trans (Prod.ext phases.symm log.symm))

/-- Whatever reaches a peer by the machine of silence is the end of its
connection. -/
theorem silentMachine_log {phases : List ConnectionPhase}
    {event : StrangerEvent} {reaction : WireReaction}
    (member : reaction ∈ (silentMachine phases event).2) :
    reaction = .disconnect := by
  cases event with
  | connected => cases member
  | closed rank => cases member
  | requested channel request => exact List.mem_singleton.mp member
  | stream rank => exact List.mem_singleton.mp member

/--
A peer outside the whitelist cannot tell two Guards apart.  In two runs of any
Guards, with any whitelists, services, commands and other peers, in which it
sends the same, it observes the same, namely the end of its connections and
nothing else.
-/
theorem strangers_meet_silence {otherRegistry : TunnelRegistry PeerId}
    {otherWhitelist : Whitelist PeerId} {otherControl : Bool}
    {otherMetrics : Metrics} {otherConnections : List (Connection PeerId)}
    {otherTrace : List (GuardTransition PeerId)}
    {otherFinish : GuardLoop PeerId}
    (run : Run (runGuardLoop registry)
      (GuardLoop.start (GuardAuthenticator.new whitelist) registry control
        metrics connections) trace finish)
    (otherRun : Run (runGuardLoop otherRegistry)
      (GuardLoop.start (GuardAuthenticator.new otherWhitelist) otherRegistry
        otherControl otherMetrics otherConnections) otherTrace otherFinish)
    (unlisted : Unlisted peer (trace ++ otherTrace))
    (served : StreamsServed peer (trace ++ otherTrace))
    (samePhases : phasesOf peer connections = phasesOf peer otherConnections)
    (sameEvents : trace.filterMap (strangerEvent peer) =
      otherTrace.filterMap (strangerEvent peer)) :
    (strangerOf peer).observed trace =
        (strangerOf peer).observed otherTrace ∧
      phasesOf peer finish.connections =
        phasesOf peer otherFinish.connections ∧
      ∀ transition ∈ trace ++ otherTrace,
        ∀ reaction ∈ wireLog peer transition, reaction = .disconnect := by
  have explained := stranger_explained run
    (fun transition member => unlisted transition (List.mem_append_left _ member))
    fun transition member => served transition (List.mem_append_left _ member)
  have otherExplained := stranger_explained otherRun
    (fun transition member =>
      unlisted transition (List.mem_append_right _ member))
    fun transition member => served transition (List.mem_append_right _ member)
  have silent : ∀ transition, (strangerOf peer).Explains transition →
      ∀ reaction ∈ wireLog peer transition, reaction = .disconnect := by
    intro transition explains reaction member
    cases happened : strangerEvent peer transition with
    | none =>
        have nothing := (explains.hidden happened).2
        have empty : wireLog peer transition = [] := nothing
        rw [empty] at member
        cases member
    | some event =>
        have moved := explains.visible event happened
        have log : wireLog peer transition =
            (silentMachine (phasesOf peer transition.before.connections)
              event).2 :=
          (congrArg Prod.snd moved).symm
        rw [log] at member
        exact silentMachine_log member
  refine ⟨?_, ?_, ?_⟩
  · exact Party.observed_eq run otherRun explained otherExplained samePhases
      sameEvents
  · have first := Party.observed_of_run run explained
    have second := Party.observed_of_run otherRun otherExplained
    have events : trace.filterMap (strangerOf peer).event =
        otherTrace.filterMap (strangerOf peer).event := sameEvents
    have view : (strangerOf peer).view (GuardLoop.start
          (GuardAuthenticator.new whitelist) registry control metrics
          connections) =
        (strangerOf peer).view (GuardLoop.start
          (GuardAuthenticator.new otherWhitelist) otherRegistry otherControl
          otherMetrics otherConnections) := samePhases
    rw [view, events, second] at first
    exact (congrArg Prod.fst first).symm
  · intro transition member
    rcases List.mem_append.mp member with here | there
    · exact silent transition (explained transition here)
    · exact silent transition (otherExplained transition there)

end Runs

section SmallSilence

open SmallGuard

/-- A peer that is on no list. -/
def stranger : BytePeer := ⟨2⟩

/-- It connects, asks, answers a challenge it never got and opens a stream. -/
def intrusion : List StrangerEvent :=
  [.connected, .requested 7 .handshakeInit,
    .requested 8 (.challengeAnswer [1, 2] 5), .stream 0]

/-- At a Guard that is alone with it, and at one that serves its peer. -/
def quietIntrusion : List (GuardEvent BytePeer) :=
  [.connectionEstablished stranger,
    .request stranger 7 true .handshakeInit 3 nonce,
    .request stranger 8 false (.challengeAnswer [1, 2] 5) 4 nonce,
    .incomingStream 0]

/-- A stranger tries everything while another peer is served. -/
def busyIntrusion : List (GuardEvent BytePeer) :=
  handshake ++ [.connectionEstablished stranger,
    .request stranger 7 true .handshakeInit 0 nonce, .incomingStream 0,
    .request stranger 8 true (.challengeAnswer [1, 2] 5) 0 nonce,
    .control (.allow ⟨3⟩ []) 0, .incomingStream 1]

/-- The stranger does this and stays unlisted, and the Guard serves. -/
def intrudes (result : List (GuardTransition BytePeer) × GuardLoop BytePeer) :
    Bool :=
  decide (result.1.filterMap (strangerEvent stranger) = intrusion) &&
    result.1.all fun transition =>
      transition.before.authenticator.whitelist.roles stranger = none &&
        transition.before.shutdownDeadline = none

theorem strangers_meet_silence_small :
    ∃ trace finish otherTrace otherFinish,
      Run (runGuardLoop TunnelRegistry.new)
        (GuardLoop.start (GuardAuthenticator.new Whitelist.new)
          TunnelRegistry.new false {} []) trace finish ∧
      Run (runGuardLoop registry) start otherTrace otherFinish ∧
      trace.filterMap (strangerEvent stranger) = intrusion ∧
      (strangerOf stranger).observed trace =
        (strangerOf stranger).observed otherTrace := by
  have computed : (execute (runGuardLoop TunnelRegistry.new)
      (GuardLoop.start (GuardAuthenticator.new Whitelist.new)
        TunnelRegistry.new false {} []) quietIntrusion).any intrudes = true := by
    decide +kernel
  have otherComputed : (execute (runGuardLoop registry) start
      busyIntrusion).any intrudes = true := by
    decide +kernel
  rcases exists_run_of_any computed with ⟨trace, finish, run, -, shown⟩
  rcases exists_run_of_any otherComputed with
    ⟨otherTrace, otherFinish, otherRun, -, otherShown⟩
  simp only [intrudes, Bool.and_eq_true, decide_eq_true_eq,
    List.all_eq_true] at shown otherShown
  have always : ∀ transition ∈ trace ++ otherTrace,
      transition.before.authenticator.whitelist.roles stranger = none ∧
        transition.before.shutdownDeadline = none := by
    intro transition member
    rcases List.mem_append.mp member with here | there
    · exact shown.2 transition here
    · exact otherShown.2 transition there
  refine ⟨trace, finish, otherTrace, otherFinish, run, otherRun, shown.1, ?_⟩
  exact (strangers_meet_silence run otherRun
    (fun transition member => (always transition member).1)
    (fun transition member _ _ => (always transition member).2) rfl
    (shown.1.trans otherShown.1.symm)).1

end SmallSilence

end NuxAuth.Core
