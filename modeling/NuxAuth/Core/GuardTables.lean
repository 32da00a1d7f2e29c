import NuxAuth.Core.GuardStep

/-!
# The access tables of a running Guard

The semaphore table is contained in the sessions, the sessions in the
whitelist, and a tunnel on a connection that was not ordered closed belongs to
a peer with a session.  The reason is one fact about transitions: no transition
takes a session away without removing the peer's semaphore and ordering every
connection of the peer closed.
-/

namespace NuxAuth.Core

open NuxAuth.Lib.FiniteTable
open NuxAuth.Lib.RecordedRun
open GuardLoop GuardAuthenticator

variable {PeerId : Type} [DecidableEq PeerId]

namespace GuardLoop

/-- The peer's session is open. -/
def HasSession (loop : GuardLoop PeerId)
    (peer : PeerId) : Prop :=
  ∃ roles, loop.authenticator.sessions.lookup peer = some roles

/-- No connection of the peer is established and spared. -/
def Cut (loop : GuardLoop PeerId) (peer : PeerId) : Prop :=
  ∀ (index : Nat) (connection : Connection PeerId),
    loop.connections[index]? = some connection →
      connection.peer = peer → connection.phase ≠ .established

end GuardLoop

/-! ## Connections only move towards their closure -/

@[simp]
theorem orderClosed_peer (peer : PeerId) (connection : Connection PeerId) :
    (orderClosed peer connection).peer = connection.peer := by
  unfold orderClosed
  split <;> rfl

theorem orderClosed_established {peer : PeerId}
    {connection : Connection PeerId}
    (spared : (orderClosed peer connection).phase = .established) :
    connection.phase = .established ∧ connection.peer ≠ peer := by
  unfold orderClosed at spared
  split at spared
  · cases spared
  · rename_i other
    refine ⟨spared, ?_⟩
    intro same
    exact other ⟨same, spared⟩

@[simp]
theorem cutIfRevoked_peer (authenticator : GuardAuthenticator PeerId)
    (peers : List PeerId) (connection : Connection PeerId) :
    (cutIfRevoked authenticator peers connection).peer = connection.peer := by
  unfold cutIfRevoked
  split
  · exact orderClosed_peer _ _
  · rfl

theorem cutIfRevoked_established {authenticator : GuardAuthenticator PeerId}
    {peers : List PeerId} {connection : Connection PeerId}
    (spared : (cutIfRevoked authenticator peers connection).phase =
      .established) :
    connection.phase = .established ∧
      ¬ (connection.peer ∈ peers ∧
        (authenticator.sessions.lookup connection.peer).isSome) := by
  unfold cutIfRevoked at spared
  split at spared
  · exact absurd rfl (orderClosed_established spared).2
  · rename_i other
    exact ⟨spared, other⟩

/-- A list of connections after some of them moved towards their closure. -/
def OnlyCloses (old new : List (Connection PeerId)) : Prop :=
  ∀ (index : Nat) (connection : Connection PeerId),
    old[index]? = some connection →
      ∃ moved : Connection PeerId, new[index]? = some moved ∧
        moved.peer = connection.peer ∧
          (moved.phase = .established → connection.phase = .established)

omit [DecidableEq PeerId] in
theorem OnlyCloses.refl (connections : List (Connection PeerId)) :
    OnlyCloses connections connections := by
  intro index connection found
  exact ⟨connection, found, rfl, id⟩

omit [DecidableEq PeerId] in
theorem OnlyCloses.ofMap {connections : List (Connection PeerId)}
    {move : Connection PeerId → Connection PeerId}
    (samePeer : ∀ connection, (move connection).peer = connection.peer)
    (spared : ∀ connection, (move connection).phase = .established →
      connection.phase = .established) :
    OnlyCloses connections (connections.map move) := by
  intro index connection found
  refine ⟨move connection, ?_, samePeer connection, spared connection⟩
  rw [List.getElem?_map, found]
  rfl

theorem OnlyCloses.disconnect (loop : GuardLoop PeerId) (peer : PeerId) :
    OnlyCloses loop.connections (loop.disconnectPeerId peer).connections :=
  OnlyCloses.ofMap (orderClosed_peer peer)
    fun _ spared => (orderClosed_established spared).1

omit [DecidableEq PeerId] in
theorem OnlyCloses.close {connections : List (Connection PeerId)}
    {connection : Nat} {peer : PeerId} {phase : ConnectionPhase}
    (found : connections[connection]? = some ⟨peer, phase⟩) :
    OnlyCloses connections (connections.set connection ⟨peer, .closed⟩) := by
  intro index other present
  by_cases same : connection = index
  · subst same
    rw [found] at present
    cases present
    have within : connection < connections.length :=
      (List.getElem?_eq_some_iff.mp found).1
    refine ⟨⟨peer, .closed⟩, ?_, rfl, ?_⟩
    · rw [List.getElem?_set_self within]
    · intro spared
      cases spared
  · refine ⟨other, ?_, rfl, id⟩
    rw [List.getElem?_set_ne same]
    exact present

theorem OnlyCloses.ofRevocation {loop next : GuardLoop PeerId}
    {peers : List PeerId} {actions : List (GuardAction PeerId)}
    (revocation : Revocation loop next peers actions) :
    OnlyCloses loop.connections next.connections := by
  rw [revocation.connections]
  exact OnlyCloses.ofMap (cutIfRevoked_peer _ _)
    fun _ spared => (cutIfRevoked_established spared).1

/-- When no connection of a peer counts as established, all are closed. -/
theorem cut_of_numEstablished_eq_zero {loop : GuardLoop PeerId}
    {peer : PeerId}
    (none : numEstablished loop.connections peer = 0) :
    loop.Cut peer := by
  intro index connection found samePeer established
  have member := List.mem_of_getElem? found
  have fails := List.countP_eq_zero.mp none connection member
  simp [samePeer, established] at fails

variable [PeerIdentity PeerId]

section Step

variable {registry : TunnelRegistry PeerId} {loop next : GuardLoop PeerId}
    {event : GuardEvent PeerId} {actions : List (GuardAction PeerId)}

theorem GuardStep.connections
    (step : GuardStep registry loop event next actions) :
    OnlyCloses loop.connections next.connections := by
  cases step with
  | connected peer =>
      intro index connection found
      refine ⟨connection, ?_, rfl, id⟩
      rw [List.getElem?_append_left (List.getElem?_eq_some_iff.mp found).1]
      exact found
  | closed found others => exact OnlyCloses.close found
  | closedLast found last => exact OnlyCloses.close found
  | silenced peer => exact OnlyCloses.disconnect loop peer
  | rejected peer => exact OnlyCloses.disconnect loop peer
  | streamUnauthenticated found none => exact OnlyCloses.disconnect loop _
  | streamOverCap found serving authorized reserved full =>
      rw [denyStream, peerSemaphore_connections reserved]
      exact OnlyCloses.refl _
  | streamSpawned found serving authorized reserved permitted =>
      rw [spawnServe, peerSemaphore_connections reserved]
      exact OnlyCloses.refl _
  | revoked peer now =>
      exact OnlyCloses.ofRevocation (revokePeers_revocation loop [peer])
  | reloaded newWhitelist now =>
      change OnlyCloses (loop.replaceWhitelist newWhitelist).connections _
      exact OnlyCloses.ofRevocation (revokePeers_revocation _ _)
  | _ => exact OnlyCloses.refl _

/-! ## How a session begins and ends -/

/-- What a transition does to the peer's entry among the sessions. -/
inductive SessionChange (loop next : GuardLoop PeerId)
    (actions : List (GuardAction PeerId)) (peer : PeerId) : Prop where
  | kept (same : next.authenticator.sessions.lookup peer =
      loop.authenticator.sessions.lookup peer)
  | granted (roles : List String)
      (session : next.authenticator.sessions.lookup peer = some roles)
      (logged : .verified peer (.granted roles) ∈ actions)
  | ended (session : next.authenticator.sessions.lookup peer = none)
      (semaphore : next.perPeer.lookup peer = none) (cut : next.Cut peer)

omit [PeerIdentity PeerId] in
private theorem sessionChange_of_revocation {peers : List PeerId}
    (revocation : Revocation loop next peers actions) (peer : PeerId) :
    SessionChange loop next actions peer := by
  by_cases listed : peer ∈ peers
  · have gone := (revocation.sessions peer).trans (if_pos listed)
    cases session : loop.authenticator.sessions.lookup peer with
    | none => exact .kept (gone.trans session.symm)
    | some roles =>
        have had : (loop.authenticator.sessions.lookup peer).isSome :=
          Option.isSome_iff_exists.mpr ⟨roles, session⟩
        refine .ended gone ?_ ?_
        · rw [revocation.perPeer, if_pos ⟨listed, had⟩]
        · intro index connection found samePeer established
          rw [revocation.connections, List.getElem?_map,
            Option.map_eq_some_iff] at found
          rcases found with ⟨original, -, rfl⟩
          rw [cutIfRevoked_peer] at samePeer
          apply (cutIfRevoked_established established).2
          rw [samePeer]
          exact ⟨listed, had⟩
  · exact .kept ((revocation.sessions peer).trans (if_neg listed))

theorem GuardStep.session_change
    (step : GuardStep registry loop event next actions) (peer : PeerId) :
    SessionChange loop next actions peer := by
  cases step with
  | closedLast found last =>
      rename_i connection closing phase
      by_cases same : peer = closing
      · subst same
        exact .ended (AList.lookup_erase _ _) (AList.lookup_erase _ _)
          (cut_of_numEstablished_eq_zero last)
      · exact .kept ((lookup_erase_eq_ite _ _ _).trans (if_neg same))
  | granted granted channel channelOpen now nonce signature timestamp pending
      acceptable =>
      rename_i challenge roles
      have entry := lookup_insert_eq_ite loop.authenticator.sessions granted
        peer roles
      by_cases same : peer = granted
      · subst same
        exact .granted roles (entry.trans (if_pos rfl)) List.mem_cons_self
      · exact .kept (entry.trans (if_neg same))
  | streamOverCap found serving authorized reserved full =>
      have same := peerSemaphore_authenticator reserved
      exact .kept (by rw [denyStream, same])
  | streamSpawned found serving authorized reserved permitted =>
      have same := peerSemaphore_authenticator reserved
      exact .kept (by rw [spawnServe, same])
  | revoked revokedPeer now =>
      exact sessionChange_of_revocation
        (revokePeers_revocation loop [revokedPeer]) peer
  | reloaded newWhitelist now =>
      -- The new whitelist is in place before the revocation, sessions are not.
      cases sessionChange_of_revocation
        (revokePeers_revocation (loop.replaceWhitelist newWhitelist) _)
          peer with
      | kept same => exact .kept same
      | granted roles session logged => exact .granted roles session logged
      | ended session semaphore cut => exact .ended session semaphore cut
  | _ => exact .kept rfl

/-- A session only ends with the peer's semaphore and connections. -/
theorem GuardStep.session_lost
    (step : GuardStep registry loop event next actions) {peer : PeerId}
    (before : loop.HasSession peer) (after : ¬ next.HasSession peer) :
    next.perPeer.lookup peer = none ∧ next.Cut peer := by
  cases step.session_change peer with
  | kept same =>
      rcases before with ⟨roles, session⟩
      exact absurd ⟨roles, same.trans session⟩ after
  | granted roles session logged => exact absurd ⟨roles, session⟩ after
  | ended session semaphore cut => exact ⟨semaphore, cut⟩

/-- A session only begins with a grant. -/
theorem GuardStep.session_gained
    (step : GuardStep registry loop event next actions) {peer : PeerId}
    (session : next.HasSession peer) :
    loop.HasSession peer ∨
      ∃ roles, .verified peer (.granted roles) ∈ actions := by
  rcases session with ⟨stored, session⟩
  cases step.session_change peer with
  | kept same => exact Or.inl ⟨stored, same.symm.trans session⟩
  | granted roles session logged => exact Or.inr ⟨roles, logged⟩
  | ended gone semaphore cut =>
      rw [gone] at session
      cases session

/-- A new entry in the semaphore table belongs to a peer with a session. -/
theorem GuardStep.perPeer_entry
    (step : GuardStep registry loop event next actions) {peer : PeerId}
    {semaphore : Nat} (entry : next.perPeer.lookup peer = some semaphore) :
    loop.perPeer.lookup peer = some semaphore ∨ loop.HasSession peer := by
  have entered : ∀ {carrier : PeerId} {roles : List String}
      {reservedLoop : GuardLoop PeerId} {handle : Nat},
      loop.authenticator.sessionRoles carrier = some roles →
        peerSemaphore registry loop carrier = (reservedLoop, handle) →
          reservedLoop.perPeer.lookup peer = some semaphore →
            loop.perPeer.lookup peer = some semaphore ∨
              loop.HasSession peer := by
    intro carrier roles reservedLoop handle authorized reserved present
    rw [peerSemaphore_perPeer reserved] at present
    split at present
    · rename_i same
      exact Or.inr (same ▸ (sessionRoles_eq_some_iff.mp authorized).1)
    · exact Or.inl present
  have erased : ∀ {gone : PeerId},
      (loop.perPeer.erase gone).lookup peer = some semaphore →
        loop.perPeer.lookup peer = some semaphore := by
    intro gone present
    rw [lookup_erase_eq_ite] at present
    exact (Option.ite_none_left_eq_some.mp present).2
  cases step with
  | closedLast found last => exact Or.inl (erased entry)
  | streamOverCap found serving authorized reserved full =>
      exact entered authorized reserved entry
  | streamSpawned found serving authorized reserved permitted =>
      exact entered authorized reserved entry
  | revoked revokedPeer now =>
      rw [(revokePeers_revocation loop [revokedPeer]).perPeer] at entry
      exact Or.inl (Option.ite_none_left_eq_some.mp entry).2
  | reloaded newWhitelist now =>
      rw [(revokePeers_revocation (loop.replaceWhitelist newWhitelist)
        _).perPeer] at entry
      exact Or.inl (Option.ite_none_left_eq_some.mp entry).2
  | _ => exact Or.inl entry

end Step

/-! ## Sessions stay inside the whitelist -/

/-- The live whitelist names the peer. -/
def GuardLoop.Listed (loop : GuardLoop PeerId) (peer : PeerId) : Prop :=
  ∃ roles, loop.authenticator.whitelist.roles peer = some roles

theorem GuardLoop.Revocation.roles {loop next : GuardLoop PeerId}
    {peers : List PeerId} {actions : List (GuardAction PeerId)}
    (revocation : Revocation loop next peers actions) (peer : PeerId) :
    next.authenticator.whitelist.roles peer =
      if peer ∈ peers then
        none
      else
        loop.authenticator.whitelist.roles peer := by
  apply Option.ext
  intro granted
  rw [Whitelist.roles_eq_some_iff, revocation.whitelist, List.mem_filter]
  split
  · rename_i listed
    simp [listed]
  · rename_i unlisted
    simp [unlisted, Whitelist.roles_eq_some_iff]

theorem mem_toRevoke_iff {loop : GuardLoop PeerId}
    {newWhitelist : Whitelist PeerId} {peer : PeerId} :
    peer ∈ loop.toRevoke newWhitelist ↔
      loop.HasSession peer ∧ newWhitelist.roles peer = none := by
  rw [toRevoke, List.mem_filter, mem_authenticatedPeers_iff,
    Option.isNone_iff_eq_none]
  rfl

section Step

variable {registry : TunnelRegistry PeerId} {loop next : GuardLoop PeerId}
    {event : GuardEvent PeerId} {actions : List (GuardAction PeerId)}

/-- Sessions contained in the whitelist remain so. -/
theorem GuardStep.session_listed
    (step : GuardStep registry loop event next actions)
    (before : ∀ peer, loop.HasSession peer → loop.Listed peer)
    {peer : PeerId} (session : next.HasSession peer) :
    next.Listed peer := by
  cases step with
  | closedLast found last =>
      rename_i connection closing phase
      apply before
      rcases session with ⟨roles, session⟩
      change (loop.authenticator.sessions.erase closing).lookup peer = _
        at session
      rw [lookup_erase_eq_ite] at session
      exact ⟨roles, (Option.ite_none_left_eq_some.mp session).2⟩
  | granted granted channel channelOpen now nonce signature timestamp pending
      acceptable =>
      rename_i challenge roles
      rcases session with ⟨stored, session⟩
      change (loop.authenticator.sessions.insert granted roles).lookup peer = _
        at session
      rw [lookup_insert_eq_ite] at session
      split at session
      · rename_i same
        subst same
        exact ⟨roles, acceptable.whitelisted⟩
      · exact before peer ⟨stored, session⟩
  | streamOverCap found serving authorized reserved full =>
      have same := peerSemaphore_authenticator reserved
      change ∃ roles, (denyStream _).authenticator.whitelist.roles peer = _
      change ∃ roles, (denyStream _).authenticator.sessions.lookup peer = _
        at session
      rw [denyStream, same] at session ⊢
      exact before peer session
  | streamSpawned found serving authorized reserved permitted =>
      have same := peerSemaphore_authenticator reserved
      change ∃ roles,
        (spawnServe _ _ _ _ _).1.authenticator.whitelist.roles peer = _
      change ∃ roles,
        (spawnServe _ _ _ _ _).1.authenticator.sessions.lookup peer = _
          at session
      rw [spawnServe, same] at session ⊢
      exact before peer session
  | revoked revokedPeer now =>
      have revocation := revokePeers_revocation loop [revokedPeer]
      rcases session with ⟨roles, session⟩
      rw [revocation.sessions] at session
      split at session
      · cases session
      · rename_i unlisted
        rcases before peer ⟨roles, session⟩ with ⟨live, listed⟩
        exact ⟨live, by rw [revocation.roles, if_neg unlisted, listed]⟩
  | allowed allowedPeer roles now =>
      change ∃ granted,
        (loop.authenticator.whitelist.allow allowedPeer roles).roles peer =
          some granted
      rw [Whitelist.roles_allow, Function.update_apply]
      split
      · exact ⟨roles, rfl⟩
      · exact before peer session
  | reloaded newWhitelist now =>
      have revocation := revokePeers_revocation
        (loop.replaceWhitelist newWhitelist) (loop.toRevoke newWhitelist)
      rcases session with ⟨roles, session⟩
      rw [revocation.sessions] at session
      split at session
      · cases session
      · rename_i unlisted
        cases listed : newWhitelist.roles peer with
        | none =>
            exact absurd (mem_toRevoke_iff.mpr ⟨⟨roles, session⟩, listed⟩)
              unlisted
        | some granted =>
            refine ⟨granted, ?_⟩
            rw [revocation.roles, if_neg unlisted]
            exact listed
  | _ => exact before peer session

end Step

/-! ## The nesting of the tables -/

/-- Semaphores, sessions, whitelist and running tunnels fit together. -/
structure Nested (loop : GuardLoop PeerId) : Prop where
  semaphores : ∀ peer semaphore,
    loop.perPeer.lookup peer = some semaphore → loop.HasSession peer
  sessions : ∀ peer, loop.HasSession peer → loop.Listed peer
  tunnels : ∀ id task, loop.tasks.lookup id = some task →
    ∃ carrier : Connection PeerId,
      loop.connections[task.connection]? = some carrier ∧
        carrier.peer = task.peer ∧
          (carrier.phase = .established → loop.HasSession task.peer)

omit [DecidableEq PeerId] in
theorem nested_start [DecidableEq PeerId] (whitelist : Whitelist PeerId)
    (registry : TunnelRegistry PeerId) (control : Bool) (metrics : Metrics)
    (connections : List (Connection PeerId)) :
    Nested (GuardLoop.start (GuardAuthenticator.new whitelist) registry
      control metrics connections) := by
  constructor
  · intro peer semaphore entry
    cases entry
  · rintro peer ⟨roles, session⟩
    cases session
  · intro id task present
    cases present

theorem Nested.step {registry : TunnelRegistry PeerId}
    {loop next : GuardLoop PeerId} {event : GuardEvent PeerId}
    {actions : List (GuardAction PeerId)} (nested : Nested loop)
    (step : GuardStep registry loop event next actions) :
    Nested next := by
  constructor
  · intro peer semaphore entry
    have before : loop.HasSession peer := by
      rcases step.perPeer_entry entry with old | session
      · exact nested.semaphores peer semaphore old
      · exact session
    by_contra lost
    rw [(step.session_lost before lost).1] at entry
    cases entry
  · intro peer session
    exact step.session_listed nested.sessions session
  · intro id task present
    -- The carrier before the transition, and the session if it was spared.
    have before : ∃ carrier : Connection PeerId,
        loop.connections[task.connection]? = some carrier ∧
          carrier.peer = task.peer ∧
            (carrier.phase = .established → loop.HasSession task.peer) := by
      cases step.task_origin present with
      | kept present => exact nested.tunnels id task present
      | resumed old resumption done present here continued same =>
        rw [same]
        exact nested.tunnels id old present
      | admitted admitted =>
        rcases admitted.carried with ⟨carrier, found, samePeer⟩
        refine ⟨carrier, found, samePeer, ?_⟩
        intro established
        exact (sessionRoles_eq_some_iff.mp admitted.authorized).1
    rcases before with ⟨carrier, found, samePeer, owned⟩
    rcases step.connections task.connection carrier found with
      ⟨moved, now, movedPeer, spared⟩
    refine ⟨moved, now, movedPeer.trans samePeer, ?_⟩
    intro established
    by_contra lost
    have cut := (step.session_lost (owned (spared established)) lost).2
    exact cut task.connection moved now (movedPeer.trans samePeer) established

/-- The event takes away all access of the peer. -/
def RemovesAccess (event : GuardEvent PeerId) (peer : PeerId) : Prop :=
  (∃ now, event = .control (.revoke peer) now) ∨
    ∃ newWhitelist now,
      event = .control (.reloadWhitelist newWhitelist) now ∧
        newWhitelist.roles peer = none

theorem GuardStep.no_session_of_removesAccess
    {registry : TunnelRegistry PeerId} {loop next : GuardLoop PeerId}
    {event : GuardEvent PeerId} {actions : List (GuardAction PeerId)}
    (step : GuardStep registry loop event next actions) {peer : PeerId}
    (removed : RemovesAccess event peer) :
    ¬ next.HasSession peer := by
  rintro ⟨roles, session⟩
  rcases removed with ⟨now, rfl⟩ | ⟨newWhitelist, now, rfl, dropped⟩
  · cases step with
    | idle control running quiet => simp at quiet
    | revoked =>
        rw [(revokePeers_revocation loop [peer]).sessions,
          if_pos (List.mem_singleton_self peer)] at session
        cases session
  · cases step with
    | idle control running quiet => simp at quiet
    | reloaded =>
        rw [(revokePeers_revocation (loop.replaceWhitelist newWhitelist)
          _).sessions] at session
        rcases Option.ite_none_left_eq_some.mp session with ⟨spared, had⟩
        exact spared (mem_toRevoke_iff.mpr ⟨⟨roles, had⟩, dropped⟩)

/--
In every reached state the access tables are nested, and right after a
revocation nothing is left of the peer but connections ordered closed.
-/
theorem access_tables_nested {registry : TunnelRegistry PeerId}
    {whitelist : Whitelist PeerId} {control : Bool} {metrics : Metrics}
    {connections : List (Connection PeerId)}
    {trace : List (GuardTransition PeerId)} {finish : GuardLoop PeerId}
    (run : Run (runGuardLoop registry)
      (GuardLoop.start (GuardAuthenticator.new whitelist) registry control
        metrics connections) trace finish) :
    (∀ peer semaphore, finish.perPeer.lookup peer = some semaphore →
        finish.HasSession peer) ∧
      (∀ peer, finish.HasSession peer → finish.Listed peer) ∧
      (∀ id task, finish.tasks.lookup id = some task →
        ∃ carrier : Connection PeerId,
          finish.connections[task.connection]? = some carrier ∧
            carrier.peer = task.peer ∧
              (carrier.phase = .established →
                finish.HasSession task.peer)) ∧
      ∀ earlier last peer, trace = earlier ++ [last] →
        RemovesAccess last.event peer →
          ¬ finish.HasSession peer ∧ finish.perPeer.lookup peer = none ∧
            ∀ id task, finish.tasks.lookup id = some task →
              task.peer = peer →
                ∃ carrier : Connection PeerId,
                  finish.connections[task.connection]? = some carrier ∧
                    carrier.peer = peer ∧ carrier.phase ≠ .established := by
  have nested : Nested finish := by
    refine run.invariant (nested_start whitelist registry control metrics
      connections) ?_
    intro state event next actions before taken
    exact before.step (runGuardLoop_step taken)
  refine ⟨nested.semaphores, nested.sessions, nested.tunnels, ?_⟩
  rintro earlier last peer rfl removed
  obtain ⟨-, taken, rfl⟩ := run.snoc_inv
  have gone := (runGuardLoop_step taken).no_session_of_removesAccess removed
  refine ⟨gone, ?_, ?_⟩
  · cases entry : last.after.perPeer.lookup peer with
    | none => rfl
    | some semaphore => exact absurd (nested.semaphores peer _ entry) gone
  · rintro id task present rfl
    rcases nested.tunnels id task present with
      ⟨carrier, found, samePeer, owned⟩
    exact ⟨carrier, found, samePeer, fun spared => gone (owned spared)⟩

section SmallRun

open SmallGuard

theorem access_tables_nested_small :
    ∃ trace finish,
      Run (runGuardLoop registry) start trace finish ∧
      trace.map Transition.event =
        handshake ++ [.incomingStream 0] ++ [.control (.revoke peer) 0] ∧
      ¬ finish.HasSession peer ∧
      ∃ task, finish.tasks.lookup 0 = some task ∧
        ∃ carrier : Connection BytePeer,
          finish.connections[task.connection]? = some carrier ∧
            carrier.peer = peer ∧ carrier.phase ≠ .established := by
  have computed : (execute (runGuardLoop registry) start
      (handshake ++ [.incomingStream 0] ++ [.control (.revoke peer) 0])).any
      (fun result =>
        (result.2.tasks.lookup 0).any fun task => task.peer = peer) = true := by
    decide +kernel
  rcases exists_run_of_any computed with ⟨trace, finish, run, events, observed⟩
  rcases (Option.any_eq_true _ _).mp observed with ⟨task, present, owned⟩
  rcases List.map_eq_append_iff.mp events with ⟨earlier, ends, rfl, -, final⟩
  rcases List.map_eq_singleton_iff.mp final with ⟨last, rfl, revoked⟩
  have removed : RemovesAccess last.event peer := Or.inl ⟨0, revoked⟩
  rcases (access_tables_nested run).2.2.2 earlier last peer rfl removed with
    ⟨gone, -, cut⟩
  exact ⟨_, finish, run, events, gone, task, present,
    cut 0 task present (of_decide_eq_true owned)⟩

end SmallRun

end NuxAuth.Core
