import NuxAuth.Core.TunnelAuthorization

/-!
# Authentication during a graceful shutdown

A shutdown command stops the issue of challenges and the admission of streams.
It does not reach the second request of a handshake: an answer to a challenge
issued before the command is still verified, and still granted.  That is the
only way in: what a stopping Guard lets happen is characterised, transition by
transition, by the arrival of such an answer.
-/

namespace NuxAuth.Core

open NuxAuth.Lib.FiniteTable
open NuxAuth.Lib.RecordedRun
open GuardLoop GuardAuthenticator

variable {PeerId : Type} [DecidableEq PeerId] [PeerIdentity PeerId]

/-- The transition authenticates nobody and starts no tunnel. -/
structure AdmitsNobody (transition : GuardTransition PeerId) : Prop where
  noGrant : ∀ peer roles,
    .verified peer (.granted roles) ∉ transition.actions
  noAccess : ∀ peer channel roles,
    .respond peer channel (.accessGranted roles) ∉ transition.actions
  noSession : ∀ peer, ¬ transition.before.HasSession peer →
    ¬ transition.after.HasSession peer
  noTask : ∀ id peer, .spawned id peer ∉ transition.actions

/-- A shutdown was requested. -/
def GuardLoop.Stopping (loop : GuardLoop PeerId) : Prop :=
  loop.shutdownDeadline ≠ none

/-- The event is an acceptable answer to a challenge still pending. -/
def AcceptableAnswer (loop : GuardLoop PeerId) (event : GuardEvent PeerId) :
    Prop :=
  ∃ peer channel channelOpen signature timestamp now nonce challenge roles,
    event = .request peer channel channelOpen
        (.challengeAnswer signature timestamp) now nonce ∧
      loop.authenticator.pending.lookup peer = some challenge ∧
        Acceptable loop.authenticator.whitelist challenge peer signature
          timestamp now roles

section Step

variable {registry : TunnelRegistry PeerId} {loop next : GuardLoop PeerId}
    {event : GuardEvent PeerId} {actions : List (GuardAction PeerId)}

/-- Only an acceptable answer is granted. -/
theorem GuardStep.granted_acceptable
    (step : GuardStep registry loop event next actions) {peer : PeerId}
    {roles : List String} (logged : .verified peer (.granted roles) ∈ actions) :
    AcceptableAnswer loop event := by
  rcases step.granted_answer logged with ⟨channel, channelOpen, signature,
    timestamp, now, nonce, challenge, same, pending, acceptable⟩
  exact ⟨peer, channel, channelOpen, signature, timestamp, now, nonce,
    challenge, roles, same, pending, acceptable⟩

/-- An access is only announced together with the grant. -/
theorem GuardStep.access_granted
    (step : GuardStep registry loop event next actions) {peer : PeerId}
    {channel : Nat} {roles : List String}
    (logged : .respond peer channel (.accessGranted roles) ∈ actions) :
    .verified peer (.granted roles) ∈ actions := by
  have notControl := step.not_control logged (by simp) (by simp)
  cases step with
  | granted granted channel channelOpen now nonce signature timestamp pending
      acceptable =>
      simp only [List.mem_cons, reduceCtorEq, mem_sendResponse_iff,
        false_or] at logged
      cases logged.2
      exact List.mem_cons_self
  | revoked | reloaded => exact absurd rfl (notControl _ _)
  | _ => simp at logged

/-- An acceptable answer is granted, also by a stopping Guard. -/
theorem GuardStep.acceptable_granted
    (step : GuardStep registry loop event next actions)
    (acceptable : AcceptableAnswer loop event) :
    ∃ peer roles, .verified peer (.granted roles) ∈ actions := by
  rcases acceptable with ⟨peer, channel, channelOpen, signature, timestamp,
    now, nonce, challenge, roles, rfl, pending, accepted⟩
  cases step with
  | granted => exact ⟨peer, _, List.mem_cons_self⟩
  | rejected _ _ _ _ _ _ _ unacceptable =>
      exact absurd accepted (unacceptable challenge roles pending)
  | idle control running quiet => simp at quiet

/-- A transition of a stopping Guard admits nobody, or answers a challenge. -/
theorem GuardStep.admitsNobody_iff
    (step : GuardStep registry loop event next actions)
    (stopping : loop.Stopping) :
    AdmitsNobody ⟨loop, event, actions, next⟩ ↔
      ¬ AcceptableAnswer loop event := by
  constructor
  · intro nobody acceptable
    rcases step.acceptable_granted acceptable with ⟨peer, roles, granted⟩
    exact nobody.noGrant peer roles granted
  · intro unacceptable
    constructor
    · intro peer roles granted
      exact unacceptable (step.granted_acceptable granted)
    · intro peer channel roles access
      exact unacceptable (step.granted_acceptable (step.access_granted access))
    · intro peer before after
      rcases step.session_gained after with session | ⟨roles, granted⟩
      · exact before session
      · exact unacceptable (step.granted_acceptable granted)
    · intro id peer spawned
      rcases step.spawned spawned with ⟨task, admitted, -⟩
      exact stopping admitted.serving

end Step

/-- The transition comes after the processing of a shutdown command. -/
def AfterShutdown (trace : List (GuardTransition PeerId))
    (transition : GuardTransition PeerId) : Prop :=
  ∃ earlier stop middle later,
    trace = earlier ++ stop :: (middle ++ transition :: later) ∧
      RequestsShutdown stop.event

/-- After a shutdown command the deadline is set for good. -/
theorem stopping_of_afterShutdown {registry : TunnelRegistry PeerId}
    {start finish : GuardLoop PeerId}
    {earlier middle later : List (GuardTransition PeerId)}
    {stop transition : GuardTransition PeerId}
    (run : Run (runGuardLoop registry) start
      (earlier ++ stop :: (middle ++ transition :: later)) finish)
    (requested : RequestsShutdown stop.event) :
    transition.before.Stopping := by
  rcases run.transition with ⟨-, atStop, afterStop⟩
  rcases afterStop.transition with ⟨untilHere, -, -⟩
  refine untilHere.invariant ?_ ?_
  · intro serving
    exact ((runGuardLoop_step atStop).serving serving).2 requested
  · intro state event next actions before taken serving
    exact before ((runGuardLoop_step taken).serving serving).1

/--
In every run, the transitions after a shutdown command admit nobody exactly
when none of them is the arrival of an acceptable answer to a pending
challenge.
-/
theorem shutdown_admits_nobody_iff {registry : TunnelRegistry PeerId}
    {start finish : GuardLoop PeerId}
    {trace : List (GuardTransition PeerId)}
    (run : Run (runGuardLoop registry) start trace finish) :
    (∀ transition, AfterShutdown trace transition →
        AdmitsNobody transition) ↔
      ∀ transition, AfterShutdown trace transition →
        ¬ AcceptableAnswer transition.before transition.event := by
  have pointwise : ∀ transition, AfterShutdown trace transition →
      (AdmitsNobody transition ↔
        ¬ AcceptableAnswer transition.before transition.event) := by
    rintro transition ⟨earlier, stop, middle, later, rfl, requested⟩
    have stopping := stopping_of_afterShutdown run requested
    rcases run.transition with ⟨-, -, afterStop⟩
    rcases afterStop.transition with ⟨-, taken, -⟩
    exact (runGuardLoop_step taken).admitsNobody_iff stopping
  constructor
  · intro nobody transition after
    exact (pointwise transition after).mp (nobody transition after)
  · intro unacceptable transition after
    exact (pointwise transition after).mpr (unacceptable transition after)

section SmallRun

open SmallGuard

theorem shutdown_admits_nobody_iff_small :
    ∃ trace finish,
      Run (runGuardLoop registry) start trace finish ∧
      trace.map Transition.event =
        [.connectionEstablished peer, asks 0 nonce,
          .control (.shutdown 10) 0, .incomingStream 0] ∧
      ∀ transition, AfterShutdown trace transition →
        AdmitsNobody transition := by
  have computed : (execute (runGuardLoop registry) start
      [.connectionEstablished peer, asks 0 nonce,
        .control (.shutdown 10) 0, .incomingStream 0]).any
      (fun _ => true) = true := by
    decide +kernel
  rcases exists_run_of_any computed with ⟨trace, finish, run, events, -⟩
  refine ⟨trace, finish, run, events, (shutdown_admits_nobody_iff run).mpr ?_⟩
  rintro transition ⟨earlier, stop, middle, later, whole, -⟩
    ⟨_, _, _, _, _, _, _, _, _, answer, -⟩
  have member : transition.event ∈ trace.map Transition.event := by
    apply List.mem_map_of_mem
    rw [whole]
    simp
  rw [events, answer] at member
  simp [asks] at member

/-- The shutdown falls between the two requests of a handshake. -/
def lateAnswer : List (GuardEvent BytePeer) :=
  [.connectionEstablished peer, asks 0 nonce, .control (.shutdown 10) 0,
    answers 1 nonce]

/-- The last transition grants the peer's answer and says so. -/
def grantsLateAnswer (trace : List (GuardTransition BytePeer)) : Bool :=
  trace.getLast?.any fun transition =>
    logs transition (.verified peer (.granted ["reader"])) &&
      logs transition (.respond peer 1 (.accessGranted ["reader"]))

theorem stopping_guard_grants :
    ∃ trace finish transition,
      Run (runGuardLoop registry) start trace finish ∧
      trace.map Transition.event = lateAnswer ∧
      AfterShutdown trace transition ∧
      .verified peer (.granted ["reader"]) ∈ transition.actions ∧
      .respond peer 1 (.accessGranted ["reader"]) ∈ transition.actions := by
  have computed : (execute (runGuardLoop registry) start lateAnswer).any
      (fun result => grantsLateAnswer result.1) = true := by
    decide +kernel
  rcases exists_run_of_any computed with ⟨trace, finish, run, events, observed⟩
  simp only [grantsLateAnswer, Option.any_eq_true, Bool.and_eq_true,
    logs_iff, List.getLast?_eq_some_iff] at observed
  rcases observed with ⟨transition, ⟨earlier, rfl⟩, granted⟩
  have prior : earlier.map Transition.event =
      [.connectionEstablished peer, asks 0 nonce, .control (.shutdown 10) 0] := by
    rw [List.map_append] at events
    exact List.append_inj_left' events rfl
  rcases List.map_eq_cons_iff.mp prior with ⟨first, _, rfl, -, prior⟩
  rcases List.map_eq_cons_iff.mp prior with ⟨second, _, rfl, -, prior⟩
  rcases List.map_eq_cons_iff.mp prior with ⟨stop, _, rfl, requested, prior⟩
  cases List.map_eq_nil_iff.mp prior
  exact ⟨_, finish, transition, run, events,
    ⟨[first, second], stop, [], [], rfl, 10, 0, requested⟩, granted⟩

end SmallRun

end NuxAuth.Core
