import NuxAuth.Core.Shutdown

/-!
# Tunnels in progress during the grace period

Between a shutdown command and its deadline the running tunnels are to be left
alone.  A stopping Guard drops new streams without a word, but it refuses a
request by closing every connection of the peer that sent it, and the tunnels
of that peer with them.

The refusal is the only danger: as long as the whitelist is not touched, a
tunnel is cut exactly when its peer sends a request that is not an acceptable
answer.
-/

namespace NuxAuth.Core

open NuxAuth.Lib.FiniteTable
open NuxAuth.Lib.RecordedRun
open GuardLoop GuardAuthenticator

variable {PeerId : Type} [DecidableEq PeerId]

/-- A serve task of the peer was spawned and has not finished. -/
def GuardLoop.HasTunnel (loop : GuardLoop PeerId) (peer : PeerId) : Prop :=
  ∃ id task, loop.tasks.lookup id = some task ∧ task.peer = peer

/-- The transition disconnects no peer with an unfinished tunnel. -/
def SparesTunnels (transition : GuardTransition PeerId) : Prop :=
  ∀ peer, transition.before.HasTunnel peer →
    .disconnect peer ∉ transition.actions

/-- `Revoke` and `ReloadWhitelist`. -/
def RemovesPeers : GuardEvent PeerId → Prop
  | .control (.revoke _) _ => True
  | .control (.reloadWhitelist _) _ => True
  | _ => False

variable [PeerIdentity PeerId]

/-- A peer with an unfinished tunnel sends a request that will be refused. -/
def RefusedWithTunnel (loop : GuardLoop PeerId) (event : GuardEvent PeerId) :
    Prop :=
  (∃ peer channel channelOpen request now nonce,
    event = .request peer channel channelOpen request now nonce ∧
      loop.HasTunnel peer) ∧ ¬ AcceptableAnswer loop event

section Step

variable {registry : TunnelRegistry PeerId} {loop next : GuardLoop PeerId}
    {event : GuardEvent PeerId} {actions : List (GuardAction PeerId)}

/-- A stopping Guard drops a stream and leaves its connection alone. -/
theorem stream_of_stopping {connection : Nat}
    (taken : runGuardLoop registry loop (.incomingStream connection) =
      some (next, actions)) (stopping : loop.Stopping) :
    actions = [] := by
  rcases Option.ite_none_right_eq_some.mp taken with ⟨-, same⟩
  rcases Option.map_eq_some_iff.mp same with ⟨carrier, -, accepted⟩
  rw [acceptStream, if_pos (Option.isSome_iff_ne_none.mpr stopping)] at accepted
  exact (congrArg Prod.snd accepted).symm

/-- What a stopping Guard disconnects is the sender of a refused request. -/
theorem disconnect_of_stopping
    (taken : runGuardLoop registry loop event = some (next, actions))
    (stopping : loop.Stopping) (keeping : ¬ RemovesPeers event)
    {peer : PeerId} (logged : .disconnect peer ∈ actions) :
    (∃ channel channelOpen request now nonce,
      event = .request peer channel channelOpen request now nonce) ∧
        ¬ AcceptableAnswer loop event := by
  cases runGuardLoop_step taken with
  | silenced sender channel channelOpen now nonce reason =>
      cases List.mem_singleton.mp logged
      refine ⟨⟨_, _, _, _, _, rfl⟩, ?_⟩
      rintro ⟨_, _, _, _, _, _, _, _, _, answer, -⟩
      cases answer
  | rejected sender channel channelOpen now nonce signature timestamp
      unacceptable =>
      simp only [List.mem_cons, reduceCtorEq, GuardAction.disconnect.injEq,
        List.not_mem_nil, or_false, false_or] at logged
      subst logged
      refine ⟨⟨_, _, _, _, _, rfl⟩, ?_⟩
      rintro ⟨_, _, _, _, _, _, _, challenge, roles, answer, pending, accepted⟩
      cases answer
      exact unacceptable challenge roles pending accepted
  | streamUnauthenticated found none =>
      have nothing := stream_of_stopping taken stopping
      cases nothing
  | revoked | reloaded => exact absurd trivial keeping
  | _ => simp at logged

/-- A stopping Guard refuses every request that is not an acceptable answer. -/
theorem request_of_stopping {peer : PeerId} {channel : Nat}
    {channelOpen : Bool} {request : NuxRequest} {now : UInt64} {nonce : Nonce}
    (taken : runGuardLoop registry loop
      (.request peer channel channelOpen request now nonce) =
        some (next, actions))
    (stopping : loop.Stopping)
    (refused : ¬ AcceptableAnswer loop
      (.request peer channel channelOpen request now nonce)) :
    .disconnect peer ∈ actions := by
  cases runGuardLoop_step taken with
  | silenced => exact List.mem_singleton_self _
  | challenged _ _ _ _ _ serving => exact absurd serving stopping
  | granted _ _ _ _ _ signature timestamp pending acceptable =>
      exact absurd ⟨_, _, _, _, _, _, _, _, _, rfl, pending, acceptable⟩ refused
  | rejected => simp
  | idle control running quiet => simp at quiet

theorem sparesTunnels_iff
    (taken : runGuardLoop registry loop event = some (next, actions))
    (stopping : loop.Stopping) (keeping : ¬ RemovesPeers event) :
    SparesTunnels ⟨loop, event, actions, next⟩ ↔
      ¬ RefusedWithTunnel loop event := by
  constructor
  · rintro spared
      ⟨⟨peer, channel, channelOpen, request, now, nonce, rfl, tunnel⟩, refused⟩
    exact spared peer tunnel (request_of_stopping taken stopping refused)
  · intro unrefused peer tunnel logged
    rcases disconnect_of_stopping taken stopping keeping logged with
      ⟨⟨channel, channelOpen, request, now, nonce, sent⟩, refused⟩
    exact unrefused
      ⟨⟨peer, channel, channelOpen, request, now, nonce, sent, tunnel⟩, refused⟩

end Step

/-! ## Runs -/

/-- The transition comes after a shutdown command and, by the clock readings of
the run, not after its deadline; no peer was removed by a command meanwhile. -/
def InGrace (instants : Nat → Nat) (trace : List (GuardTransition PeerId))
    (transition : GuardTransition PeerId) : Prop :=
  ∃ earlier stop middle later gracePeriod now,
    trace = earlier ++ stop :: (middle ++ transition :: later) ∧
      stop.event = .control (.shutdown gracePeriod) now ∧
      instants (earlier.length + 1 + middle.length) ≤ now + gracePeriod ∧
      ∀ other ∈ middle ++ [transition], ¬ RemovesPeers other.event

/--
In every run, no tunnel in progress is cut during the grace period of a
shutdown, if and only if no peer with an unfinished tunnel sends a request in
that time, except an acceptable answer to a pending challenge.
-/
theorem grace_period_kept_iff {registry : TunnelRegistry PeerId}
    {start finish : GuardLoop PeerId} {trace : List (GuardTransition PeerId)}
    (run : Run (runGuardLoop registry) start trace finish)
    (instants : Nat → Nat) :
    (∀ transition, InGrace instants trace transition →
        SparesTunnels transition) ↔
      ∀ transition, InGrace instants trace transition →
        ¬ RefusedWithTunnel transition.before transition.event := by
  have pointwise : ∀ transition, InGrace instants trace transition →
      (SparesTunnels transition ↔
        ¬ RefusedWithTunnel transition.before transition.event) := by
    rintro transition ⟨earlier, stop, middle, later, gracePeriod, now, rfl,
      requested, -, keeping⟩
    have stopping := stopping_of_afterShutdown run ⟨gracePeriod, now, requested⟩
    rcases run.transition with ⟨-, -, afterStop⟩
    rcases afterStop.transition with ⟨-, taken, -⟩
    exact sparesTunnels_iff taken stopping (keeping transition (by simp))
  constructor
  · intro spared transition inGrace
    exact (pointwise transition inGrace).mp (spared transition inGrace)
  · intro unrefused transition inGrace
    exact (pointwise transition inGrace).mpr (unrefused transition inGrace)

section SmallRun

open SmallGuard

/-- A shutdown with one tunnel open, and then more from the same peer. -/
def stopsWithTunnel (more : GuardEvent BytePeer) : List (GuardEvent BytePeer) :=
  (handshake ++ [.incomingStream 0]) ++ .control (.shutdown 10) 0 :: [more]

/-- The event is a message of a peer. -/
def isRequest : GuardEvent BytePeer → Bool
  | .request _ _ _ _ _ _ => true
  | _ => false

theorem grace_period_kept_iff_small :
    ∃ trace finish,
      Run (runGuardLoop registry) start trace finish ∧
      trace.map Transition.event = stopsWithTunnel (.incomingStream 0) ∧
      finish.HasTunnel peer ∧
      ∀ transition, InGrace (fun _ => 0) trace transition →
        SparesTunnels transition := by
  have computed : (execute (runGuardLoop registry) start
      (stopsWithTunnel (.incomingStream 0))).any (fun result =>
        (result.2.tasks.lookup 0).any (fun task => decide (task.peer = peer)) &&
          result.1.all fun transition =>
            transition.before.tasks.entries.isEmpty ||
              !isRequest transition.event) = true := by
    decide +kernel
  rcases exists_run_of_any computed with ⟨trace, finish, run, events, observed⟩
  simp only [Bool.and_eq_true, Option.any_eq_true, decide_eq_true_eq,
    List.all_eq_true, Bool.or_eq_true, Bool.not_eq_true'] at observed
  rcases observed with ⟨⟨task, present, owned⟩, requests⟩
  refine ⟨trace, finish, run, events, ⟨0, task, present, owned⟩,
    (grace_period_kept_iff run (fun _ => 0)).mpr ?_⟩
  rintro transition ⟨earlier, stop, middle, later, _, _, whole, -⟩
    ⟨⟨sender, _, _, _, _, _, sent, id, old, held, -⟩, -⟩
  have member : transition ∈ trace := by
    rw [whole]
    simp
  rcases requests transition member with idle | other
  · rw [List.isEmpty_iff] at idle
    rw [AList.lookup, idle] at held
    cases held
  · rw [sent] at other
    cases other

/-- A second process of the same identity asks for a challenge. -/
theorem tunnel_cut_in_grace :
    ∃ trace finish transition,
      Run (runGuardLoop registry) start trace finish ∧
      trace.map Transition.event = stopsWithTunnel (asks 2 nonce) ∧
      InGrace (fun _ => 0) trace transition ∧
      transition.before.HasTunnel peer ∧
      .disconnect peer ∈ transition.actions := by
  have computed : (execute (runGuardLoop registry) start
      (stopsWithTunnel (asks 2 nonce))).any (fun result =>
        result.1.getLast?.any fun transition =>
          (transition.before.tasks.lookup 0).any
              (fun task => decide (task.peer = peer)) &&
            logs transition (.disconnect peer)) = true := by
    decide +kernel
  rcases exists_run_of_any computed with ⟨trace, finish, run, events, observed⟩
  simp only [Bool.and_eq_true, Option.any_eq_true, decide_eq_true_eq, logs_iff]
    at observed
  rcases observed with ⟨transition, last, ⟨task, present, owned⟩, cut⟩
  refine ⟨trace, finish, transition, run, events, ?_,
    ⟨0, task, present, owned⟩, cut⟩
  rcases List.map_eq_append_iff.mp events with ⟨earlier, rest, rfl, -, more⟩
  rcases List.map_eq_cons_iff.mp more with ⟨stop, tail, rfl, stops, after⟩
  rcases List.map_eq_singleton_iff.mp after with ⟨closing, rfl, asked⟩
  have sameLast : closing = transition := by
    simpa [List.getLast?_cons] using last
  subst sameLast
  refine ⟨earlier, stop, [], [], 10, 0, rfl, stops, Nat.zero_le _, ?_⟩
  intro other member
  rw [List.nil_append, List.mem_singleton] at member
  rw [member, asked]
  exact id

end SmallRun

end NuxAuth.Core
