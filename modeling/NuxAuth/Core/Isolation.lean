import NuxAuth.Core.PeerMachine

/-!
# Peers are isolated from one another

Every transition of the guard loop either leaves the slice of a peer alone or
moves it as `peerMachine` does.  Whatever the other peers do, a peer therefore
gets from the Guard what its own events and the commands determine, as long as
none of its streams is refused for want of a global permit.
-/

namespace NuxAuth.Core

open NuxAuth.Lib.FiniteTable
open NuxAuth.Lib.LocalView
open NuxAuth.Lib.RecordedRun
open GuardLoop GuardAuthenticator

variable {PeerId : Type} [DecidableEq PeerId]

/-! ## One transition -/

section Step

variable [PeerIdentity PeerId] {registry : TunnelRegistry PeerId}
    {peer : PeerId} {cap : Nat} {loop : GuardLoop PeerId}

omit [PeerIdentity PeerId] in
theorem rankedConnection_self {connection : Nat} {phase : ConnectionPhase}
    (found : loop.connections[connection]? = some ⟨peer, phase⟩) :
    rankedConnection peer loop connection =
      some (connectionRank peer loop.connections connection) := by
  rw [rankedConnection, found]
  exact if_pos rfl

omit [PeerIdentity PeerId] in
theorem rankedConnection_other {connection : Nat} {other : PeerId}
    {phase : ConnectionPhase}
    (found : loop.connections[connection]? = some ⟨other, phase⟩)
    (different : other ≠ peer) :
    rankedConnection peer loop connection = none := by
  rw [rankedConnection, found]
  exact if_neg different

theorem explains_connected (sender : PeerId) :
    (partyOf cap peer).Explains
      ⟨loop, .connectionEstablished sender, [],
        { loop with
          connections := loop.connections ++ [⟨sender, .established⟩] }⟩ := by
  by_cases same : sender = peer
  · refine Party.explains_of_visible (if_pos same) ?_
    refine Prod.ext (PeerView.ext rfl rfl rfl rfl ?_ rfl rfl) rfl
    have phases := phasesOf_append peer loop.connections sender .established
    rw [if_pos same] at phases
    exact phases.symm
  · refine Party.explains_of_hidden (if_neg same) ?_ rfl
    refine PeerView.ext rfl rfl rfl rfl ?_ rfl rfl
    refine (phasesOf_append peer _ sender .established).trans ?_
    rw [if_neg same, List.append_nil]
    rfl

/-- The connection leaves others open, or it was the last of its peer. -/
theorem explains_closed {connection : Nat} {owner : PeerId}
    {phase : ConnectionPhase}
    (found : loop.connections[connection]? = some ⟨owner, phase⟩)
    (others : numEstablished
      (loop.connections.set connection ⟨owner, .closed⟩) owner ≠ 0) :
    (partyOf cap peer).Explains
      ⟨loop, .connectionClosed connection, [],
        { loop with connections :=
          loop.connections.set connection ⟨owner, .closed⟩ }⟩ := by
  by_cases same : owner = peer
  · subst same
    have phases := phasesOf_set_self found .closed
    rw [numEstablished_eq, phases] at others
    refine Party.explains_of_visible
      (congrArg (Option.map PeerEvent.closed) (rankedConnection_self found)) ?_
    refine (if_neg others).trans ?_
    exact Prod.ext (PeerView.ext rfl rfl rfl rfl phases.symm rfl rfl) rfl
  · refine Party.explains_of_hidden
      (congrArg (Option.map PeerEvent.closed)
        (rankedConnection_other found same)) ?_ rfl
    exact PeerView.ext rfl rfl rfl rfl (phasesOf_set_other found same .closed)
      rfl rfl

theorem explains_closedLast {connection : Nat} {owner : PeerId}
    {phase : ConnectionPhase}
    (found : loop.connections[connection]? = some ⟨owner, phase⟩)
    (last : numEstablished
      (loop.connections.set connection ⟨owner, .closed⟩) owner = 0) :
    (partyOf cap peer).Explains
      ⟨loop, .connectionClosed connection, [.sessionEnded owner],
        { loop with
          connections := loop.connections.set connection ⟨owner, .closed⟩
          perPeer := loop.perPeer.erase owner
          authenticator := loop.authenticator.endSession owner }⟩ := by
  by_cases same : owner = peer
  · subst same
    have phases := phasesOf_set_self found .closed
    rw [numEstablished_eq, phases] at last
    refine Party.explains_of_visible
      (congrArg (Option.map PeerEvent.closed) (rankedConnection_self found)) ?_
    refine (if_pos last).trans ?_
    have entry := AList.lookup_erase owner loop.perPeer
    refine Prod.ext (PeerView.ext rfl ?_ ?_ rfl phases.symm ?_ ?_) ?_
    · exact (AList.lookup_erase owner loop.authenticator.pending).symm
    · exact (AList.lookup_erase owner loop.authenticator.sessions).symm
    · exact (congrArg (Option.map loop.semaphores) entry).symm
    · have tasks : GuardLoop.tasksOf
          { loop with perPeer := loop.perPeer.erase owner } owner =
            (loop.tasksOf owner).map fun _ => false :=
        tasksOf_forget rfl rfl entry
      exact tasks.symm
    · simp [partyOf, peerLog, reactionOf]
  · have entry : (loop.perPeer.erase owner).lookup peer =
        loop.perPeer.lookup peer := AList.lookup_erase_ne (Ne.symm same)
    refine Party.explains_of_hidden
      (congrArg (Option.map PeerEvent.closed)
        (rankedConnection_other found same)) ?_ ?_
    · refine PeerView.ext rfl ?_ ?_ rfl (phasesOf_set_other found same .closed)
        ?_ ?_
      · exact AList.lookup_erase_ne (Ne.symm same)
      · exact AList.lookup_erase_ne (Ne.symm same)
      · exact congrArg (Option.map loop.semaphores) entry
      · have tasks : GuardLoop.tasksOf
            { loop with perPeer := loop.perPeer.erase owner } peer =
              loop.tasksOf peer := tasksOf_congr rfl rfl entry
        exact tasks
    · simp [partyOf, peerLog, reactionOf, same]

omit [PeerIdentity PeerId] in
/-- The response reaches the peer it is meant for. -/
theorem filterMap_sendResponse (receiver : PeerId) (channel : Nat)
    (channelOpen : Bool) (response : NuxResponse) (after : GuardLoop PeerId) :
    (sendResponse receiver channel channelOpen response).filterMap
        (reactionOf peer after) =
      if receiver = peer then
        PeerView.respond channel channelOpen response
      else
        [] := by
  by_cases same : receiver = peer
  · cases channelOpen <;>
      simp [sendResponse, PeerView.respond, reactionOf, same]
  · cases channelOpen <;> simp [sendResponse, reactionOf, same]

theorem viewOf_disconnect (peer : PeerId) (loop : GuardLoop PeerId)
    (target : PeerId) (metrics : Metrics) :
    viewOf peer (disconnectPeerId { loop with metrics := metrics } target) =
      if target = peer then (viewOf peer loop).disconnect
      else viewOf peer loop := by
  have phases := phasesOf_map_orderClosed peer loop.connections target
  split
  · rename_i same
    rw [if_pos same] at phases
    exact PeerView.ext rfl rfl rfl rfl phases rfl rfl
  · rename_i different
    rw [if_neg different] at phases
    exact PeerView.ext rfl rfl rfl rfl phases rfl rfl

theorem explains_silenced (sender : PeerId) (channel : Nat)
    (channelOpen : Bool) (now : UInt64) (nonce : Nonce)
    (reason : loop.shutdownDeadline.isSome ∨
      loop.authenticator.whitelist.roles sender = none) :
    (partyOf cap peer).Explains
      ⟨loop, .request sender channel channelOpen .handshakeInit now nonce,
        [.disconnect sender],
        disconnectPeerId { loop with
          metrics := loop.metrics.recordAuthDenied } sender⟩ := by
  have view := viewOf_disconnect peer loop sender
    loop.metrics.recordAuthDenied
  by_cases same : sender = peer
  · subst same
    rw [if_pos rfl] at view
    refine Party.explains_of_visible (if_pos rfl) ?_
    have refused : (viewOf sender loop).stopping ∨
        (viewOf sender loop).roles.isNone :=
      reason.imp_right Option.isNone_iff_eq_none.mpr
    refine (if_pos refused).trans (Prod.ext view.symm ?_)
    simp [partyOf, peerLog, reactionOf]
  · rw [if_neg same] at view
    refine Party.explains_of_hidden (if_neg same) view ?_
    simp [partyOf, peerLog, reactionOf, same]

theorem explains_challenged (sender : PeerId) (channel : Nat)
    (channelOpen : Bool) (now : UInt64) (nonce : Nonce) {roles : List String}
    (serving : loop.shutdownDeadline = none)
    (listed : loop.authenticator.whitelist.roles sender = some roles) :
    (partyOf cap peer).Explains
      ⟨loop, .request sender channel channelOpen .handshakeInit now nonce,
        .issued sender (.challenge nonce now) ::
          sendResponse sender channel channelOpen (.challenge nonce now),
        { loop with
          authenticator := { loop.authenticator with
            pending :=
              loop.authenticator.pending.insert sender ⟨nonce, now⟩ } }⟩ := by
  by_cases same : sender = peer
  · subst same
    refine Party.explains_of_visible (if_pos rfl) ?_
    have issuing : ¬ ((viewOf sender loop).stopping ∨
        (viewOf sender loop).roles.isNone) := by
      simp [viewOf, serving, listed]
    refine (if_neg issuing).trans ?_
    refine Prod.ext (PeerView.ext rfl ?_ rfl rfl rfl rfl rfl) ?_
    · exact (AList.lookup_insert loop.authenticator.pending).symm
    · simp [partyOf, peerLog, reactionOf, filterMap_sendResponse]
  · refine Party.explains_of_hidden (if_neg same) ?_ ?_
    · refine PeerView.ext rfl ?_ rfl rfl rfl rfl rfl
      exact AList.lookup_insert_ne (Ne.symm same)
    · simp [partyOf, peerLog, reactionOf, filterMap_sendResponse, same]

omit [DecidableEq PeerId] in
theorem accepts_eq_some_iff {view : PeerView} {whitelist : Whitelist PeerId}
    {signature : List UInt8} {timestamp now : UInt64} {roles : List String}
    (listed : view.roles = whitelist.roles peer) :
    view.accepts peer signature timestamp now = some roles ↔
      ∃ challenge, view.pending = some challenge ∧
        Acceptable whitelist challenge peer signature timestamp now roles := by
  unfold PeerView.accepts
  rw [Option.bind_eq_some_iff]
  refine exists_congr fun challenge => and_congr_right fun pending => ?_
  rw [listed, Option.bind_eq_some_iff]
  constructor
  · rintro ⟨granted, whitelisted, accepted⟩
    rcases Option.bind_eq_some_iff.mp accepted with ⟨key, embedded, checked⟩
    rcases Option.ite_none_right_eq_some.mp checked with
      ⟨⟨fresh, inWindow, signed⟩, same⟩
    cases same
    exact ⟨fresh, inWindow, whitelisted, key, embedded, signed⟩
  · rintro ⟨fresh, inWindow, whitelisted, key, embedded, signed⟩
    refine ⟨roles, whitelisted, Option.bind_eq_some_iff.mpr ⟨key, embedded, ?_⟩⟩
    exact if_pos ⟨fresh, inWindow, signed⟩

theorem explains_granted (sender : PeerId) (channel : Nat)
    (channelOpen : Bool) (now : UInt64) (nonce : Nonce)
    (signature : List UInt8) (timestamp : UInt64)
    {challenge : IssuedChallenge} {roles : List String}
    (pending : loop.authenticator.pending.lookup sender = some challenge)
    (acceptable : Acceptable loop.authenticator.whitelist challenge sender
      signature timestamp now roles) :
    (partyOf cap peer).Explains
      ⟨loop, .request sender channel channelOpen
          (.challengeAnswer signature timestamp) now nonce,
        .verified sender (.granted roles) ::
          sendResponse sender channel channelOpen (.accessGranted roles),
        { loop with
          authenticator := { loop.authenticator with
            pending := loop.authenticator.pending.erase sender
            sessions := loop.authenticator.sessions.insert sender roles }
          metrics := loop.metrics.recordAuthGranted }⟩ := by
  by_cases same : sender = peer
  · subst same
    refine Party.explains_of_visible (if_pos rfl) ?_
    have accepted : (viewOf sender loop).accepts sender signature timestamp now =
        some roles :=
      (accepts_eq_some_iff rfl).mpr ⟨challenge, pending, acceptable⟩
    change PeerView.answer (viewOf sender loop) sender channel channelOpen
      signature timestamp now = _
    rw [PeerView.answer, accepted]
    refine Prod.ext (PeerView.ext rfl ?_ ?_ rfl rfl rfl rfl) ?_
    · exact (AList.lookup_erase sender loop.authenticator.pending).symm
    · exact (AList.lookup_insert loop.authenticator.sessions).symm
    · simp [partyOf, peerLog, reactionOf, filterMap_sendResponse]
  · refine Party.explains_of_hidden (if_neg same) ?_ ?_
    · refine PeerView.ext rfl ?_ ?_ rfl rfl rfl rfl
      · exact AList.lookup_erase_ne (Ne.symm same)
      · exact AList.lookup_insert_ne (Ne.symm same)
    · simp [partyOf, peerLog, reactionOf, filterMap_sendResponse, same]

theorem explains_rejected (sender : PeerId) (channel : Nat)
    (channelOpen : Bool) (now : UInt64) (nonce : Nonce)
    (signature : List UInt8) (timestamp : UInt64)
    (unacceptable : ∀ challenge roles,
      loop.authenticator.pending.lookup sender = some challenge →
        ¬ Acceptable loop.authenticator.whitelist challenge sender signature
          timestamp now roles) :
    (partyOf cap peer).Explains
      ⟨loop, .request sender channel channelOpen
          (.challengeAnswer signature timestamp) now nonce,
        [.verified sender .reject, .disconnect sender],
        disconnectPeerId { loop with
          authenticator := { loop.authenticator with
            pending := loop.authenticator.pending.erase sender }
          metrics := loop.metrics.recordAuthDenied } sender⟩ := by
  have phases := phasesOf_map_orderClosed peer loop.connections sender
  by_cases same : sender = peer
  · subst same
    rw [if_pos rfl] at phases
    refine Party.explains_of_visible (if_pos rfl) ?_
    have refused : (viewOf sender loop).accepts sender signature timestamp now =
        none := by
      rw [Option.eq_none_iff_forall_ne_some]
      intro roles accepted
      rcases (accepts_eq_some_iff rfl).mp accepted with
        ⟨challenge, pending, acceptable⟩
      exact unacceptable challenge roles pending acceptable
    change PeerView.answer (viewOf sender loop) sender channel channelOpen
      signature timestamp now = _
    rw [PeerView.answer, refused]
    refine Prod.ext (PeerView.ext rfl ?_ rfl rfl phases.symm rfl rfl) ?_
    · exact (AList.lookup_erase sender loop.authenticator.pending).symm
    · simp [partyOf, peerLog, reactionOf]
  · rw [if_neg same] at phases
    refine Party.explains_of_hidden (if_neg same) ?_ ?_
    · refine PeerView.ext rfl ?_ rfl rfl phases rfl rfl
      exact AList.lookup_erase_ne (Ne.symm same)
    · simp [partyOf, peerLog, reactionOf, same]

/-! ### Commands -/

omit [PeerIdentity PeerId] in
/-- What a list of revocations logs for the peer, listed at most once. -/
theorem filterMap_revokePeers (after : GuardLoop PeerId)
    {peers : List PeerId} (once : peers.Nodup) (loop : GuardLoop PeerId) :
    (loop.revokePeers peers).2.filterMap (reactionOf peer after) =
      if peer ∈ peers then
        if (loop.authenticator.sessions.lookup peer).isSome then
          [.revoked, .disconnect]
        else
          [.revoked]
      else
        [] := by
  induction peers generalizing loop with
  | nil => rfl
  | cons first rest induction =>
      rcases List.nodup_cons.mp once with ⟨absent, once⟩
      have head := revokePeer_revocation loop first
      have tail := induction once (loop.revokePeer first).1
      have joined : (loop.revokePeers (first :: rest)).2 =
          (loop.revokePeer first).2 ++
            ((loop.revokePeer first).1.revokePeers rest).2 := rfl
      rw [joined, List.filterMap_append, tail, head.sessions]
      have logged : (loop.revokePeer first).2 =
          if (loop.authenticator.sessions.lookup first).isSome then
            [.revoked first, .disconnect first]
          else
            [.revoked first] := by
        unfold revokePeer GuardAuthenticator.revoke
        cases loop.authenticator.sessions.lookup first <;> rfl
      rw [logged]
      by_cases same : first = peer
      · subst same
        split <;> simp [reactionOf, absent]
      · have different : peer ≠ first := Ne.symm same
        split <;> simp [reactionOf, same, different]

/-- A revocation of several peers, as one of them or another peer meets it. -/
theorem viewOf_revocation {next : GuardLoop PeerId} {peers : List PeerId}
    {actions : List (GuardAction PeerId)}
    (revocation : Revocation loop next peers actions) :
    viewOf peer next =
      if peer ∈ peers then (viewOf peer loop).revoke.1
      else viewOf peer loop := by
  rcases revocation.frame with
    ⟨deadline, permits, number, tasks, nextTask, global⟩
  have roles := revocation.roles peer
  have pending := revocation.pending peer
  have session := revocation.sessions peer
  have entry := revocation.perPeer peer
  have phases : phasesOf peer next.connections = _ :=
    (congrArg (phasesOf peer) revocation.connections).trans
      (phasesOf_map_cutIfRevoked loop.authenticator peers)
  have stopping : next.shutdownDeadline.isSome =
      loop.shutdownDeadline.isSome := by
    rw [deadline]
  have permitsOf : ∀ held, next.perPeer.lookup peer = held →
      (viewOf peer next).permits = held.map loop.semaphores := by
    intro held same
    rw [viewOf, same, permits]
  split
  · rename_i listed
    rw [if_pos listed] at roles pending session
    simp only [listed, true_and] at entry phases
    have hadSession : (viewOf peer loop).session =
        loop.authenticator.sessions.lookup peer := rfl
    unfold PeerView.revoke
    rw [hadSession]
    cases had : loop.authenticator.sessions.lookup peer with
    | none =>
        rw [had] at entry phases
        exact PeerView.ext roles pending session stopping phases
          (permitsOf _ entry) (tasksOf_congr nextTask tasks entry)
    | some granted =>
        rw [had] at entry phases
        exact PeerView.ext roles pending session stopping phases
          (permitsOf _ entry) (tasksOf_forget nextTask tasks entry)
  · rename_i unlisted
    rw [if_neg unlisted] at roles pending session
    simp only [unlisted, false_and, if_false] at entry phases
    exact PeerView.ext roles pending session stopping phases
      (permitsOf _ entry) (tasksOf_congr nextTask tasks entry)

/-- A list of revocations, as the machine of a listed or unlisted peer. -/
theorem revokePeers_explained (peer : PeerId) (loop : GuardLoop PeerId)
    {peers : List PeerId} (once : peers.Nodup) :
    (viewOf peer (loop.revokePeers peers).1,
        (loop.revokePeers peers).2.filterMap
          (reactionOf peer (loop.revokePeers peers).1)) =
      if peer ∈ peers then (viewOf peer loop).revoke
      else (viewOf peer loop, []) := by
  rw [viewOf_revocation (revokePeers_revocation loop peers),
    filterMap_revokePeers _ once]
  split
  · rw [PeerView.revoke]
    have had : (viewOf peer loop).session =
        loop.authenticator.sessions.lookup peer := rfl
    rw [had]
    split <;> rfl
  · rfl

theorem explains_revoked (target : PeerId) (now : Nat) :
    (partyOf cap peer).Explains
      ⟨loop, .control (.revoke target) now, (loop.revokePeers [target]).2,
        (loop.revokePeers [target]).1⟩ := by
  refine Party.explains_of_visible rfl ?_
  have explained := revokePeers_explained peer loop
    (List.nodup_singleton target)
  refine Eq.trans ?_ explained.symm
  change (if target = peer then (viewOf peer loop).revoke
    else (viewOf peer loop, [])) = _
  simp only [List.mem_singleton, eq_comm]

theorem explains_allowed (allowed : PeerId) (roles : List String) (now : Nat) :
    (partyOf cap peer).Explains
      ⟨loop, .control (.allow allowed roles) now, [],
        loop.replaceWhitelist
          (loop.authenticator.whitelist.allow allowed roles)⟩ := by
  refine Party.explains_of_visible rfl (Prod.ext ?_ rfl)
  have listed : (loop.authenticator.whitelist.allow allowed roles).roles peer =
      if peer = allowed then some roles
      else loop.authenticator.whitelist.roles peer := by
    rw [Whitelist.roles_allow, Function.update_apply]
  change (if allowed = peer then _ else _) = _
  by_cases same : allowed = peer
  · rw [if_pos same.symm] at listed
    rw [if_pos same]
    exact PeerView.ext listed.symm rfl rfl rfl rfl rfl rfl
  · rw [if_neg (Ne.symm same)] at listed
    rw [if_neg same]
    exact PeerView.ext listed.symm rfl rfl rfl rfl rfl rfl

omit [DecidableEq PeerId] in
private theorem toRevoke_nodup (loop : GuardLoop PeerId)
    (newWhitelist : Whitelist PeerId) :
    (loop.toRevoke newWhitelist).Nodup :=
  (AList.keys_nodup loop.authenticator.sessions).filter _

theorem explains_reloaded (newWhitelist : Whitelist PeerId) (now : Nat) :
    (partyOf cap peer).Explains
      ⟨loop, .control (.reloadWhitelist newWhitelist) now,
        ((loop.replaceWhitelist newWhitelist).revokePeers
          (loop.toRevoke newWhitelist)).2,
        ((loop.replaceWhitelist newWhitelist).revokePeers
          (loop.toRevoke newWhitelist)).1⟩ := by
  refine Party.explains_of_visible rfl ?_
  have explained := revokePeers_explained peer
    (loop.replaceWhitelist newWhitelist) (toRevoke_nodup loop newWhitelist)
  refine Eq.trans ?_ explained.symm
  have dropped : peer ∈ loop.toRevoke newWhitelist ↔
      (viewOf peer loop).session.isSome ∧
        (newWhitelist.roles peer).isNone := by
    rw [mem_toRevoke_iff, Option.isSome_iff_exists, Option.isNone_iff_eq_none]
    rfl
  simp only [dropped]
  rfl

theorem explains_stopping (gracePeriod now : Nat) :
    (partyOf cap peer).Explains
      ⟨loop, .control (.shutdown gracePeriod) now, [],
        { loop with shutdownDeadline := some (now + gracePeriod) }⟩ :=
  Party.explains_of_visible rfl rfl

theorem explains_idle {event : GuardEvent PeerId} (control running : Bool)
    (quiet : event = .otherSwarmEvent ∨ event = .controlClosed ∨
      ∃ now, event = .drainTick now) :
    (partyOf cap peer).Explains
      ⟨loop, event, [],
        { loop with control := control, running := running }⟩ := by
  refine Party.explains_of_hidden ?_ rfl rfl
  rcases quiet with rfl | rfl | ⟨now, rfl⟩ <;> rfl

/-! ### Streams -/

omit [PeerIdentity PeerId] in
/-- A new task of the peer stands last among its tasks. -/
theorem tasksOf_spawn (peer : PeerId) (loop : GuardLoop PeerId)
    (carrier : PeerId) (connection : Nat) (roles : List String)
    (semaphore : Nat) :
    (loop.spawnServe carrier connection roles semaphore).1.tasksOf peer =
      loop.tasksOf peer ++
        if carrier = peer then
          [decide (loop.perPeer.lookup peer = some semaphore)]
        else
          [] := by
  have old : (List.range loop.nextTask).filterMap
      ((loop.spawnServe carrier connection roles semaphore).1.taskOf peer) =
        loop.tasksOf peer := by
    apply List.filterMap_congr
    intro id member
    have different : id ≠ loop.nextTask := (List.mem_range.mp member).ne
    change ((loop.tasks.insert loop.nextTask _).lookup id).bind _ = _
    rw [AList.lookup_insert_ne different]
    rfl
  have new : (loop.spawnServe carrier connection roles semaphore).1.taskOf peer
      loop.nextTask =
        if carrier = peer then
          some (decide (loop.perPeer.lookup peer = some semaphore))
        else
          none := by
    change ((loop.tasks.insert loop.nextTask _).lookup loop.nextTask).bind _ = _
    rw [AList.lookup_insert]
    rfl
  change (List.range (loop.nextTask + 1)).filterMap _ = _
  rw [List.range_succ, List.filterMap_append, old]
  split
  · rename_i same
    rw [if_pos same] at new
    simp [new]
  · rename_i different
    rw [if_neg different] at new
    simp [new]

/-- The semaphore of the peer after its reservation. -/
theorem viewOf_enter_self {entered : GuardLoop PeerId} {semaphore : Nat}
    (owned : SemaphoresOwned loop)
    (reserved : peerSemaphore registry loop peer = (entered, semaphore)) :
    viewOf peer entered = { viewOf peer loop with
        permits := some
          ((viewOf peer loop).permits.getD registry.maxStreamsPerPeer) } ∧
      entered.semaphores semaphore =
        (viewOf peer loop).permits.getD registry.maxStreamsPerPeer := by
  rcases peerSemaphore_cases reserved with ⟨present, rfl⟩ | ⟨absent, rfl, rfl⟩
  · have permits : (viewOf peer entered).permits =
        some (entered.semaphores semaphore) := by
      rw [viewOf, present]
      rfl
    rw [permits]
    exact ⟨PeerView.ext rfl rfl rfl rfl rfl permits rfl, rfl⟩
  · have permits : (viewOf peer loop).permits = none := by
      rw [viewOf, absent]
      rfl
    have entry := AList.lookup_insert (a := peer) (b := loop.nextSemaphore)
      loop.perPeer
    have drawn : Function.update loop.semaphores loop.nextSemaphore
        registry.maxStreamsPerPeer loop.nextSemaphore =
          registry.maxStreamsPerPeer := Function.update_self _ _ _
    rw [permits]
    refine ⟨PeerView.ext rfl rfl rfl rfl rfl ?_ ?_, drawn⟩
    · refine (congrArg (Option.map _) entry).trans ?_
      exact congrArg some drawn
    · -- A fresh semaphore is none of those the running tasks drew from.
      apply List.filterMap_congr
      intro id member
      unfold taskOf
      cases found : loop.tasks.lookup id with
      | none => rfl
      | some task =>
          have older : loop.nextSemaphore ≠ task.semaphore :=
            (owned.held id task found).ne'
          simp [entry, absent, older]

theorem viewOf_enter_other {entered : GuardLoop PeerId} {other : PeerId}
    {semaphore : Nat} (owned : SemaphoresOwned loop)
    (reserved : peerSemaphore registry loop other = (entered, semaphore))
    (different : other ≠ peer) :
    viewOf peer entered = viewOf peer loop := by
  rcases peerSemaphore_cases reserved with ⟨present, rfl⟩ | ⟨absent, rfl, rfl⟩
  · rfl
  · have entry : (loop.perPeer.insert other loop.nextSemaphore).lookup peer =
        loop.perPeer.lookup peer := AList.lookup_insert_ne (Ne.symm different)
    refine PeerView.ext rfl rfl rfl rfl rfl ?_ ?_
    · refine (congrArg (Option.map _) entry).trans ?_
      apply Option.map_congr
      intro handle held
      exact Function.update_of_ne (owned.entered peer handle held).ne _ _
    · have tasks : GuardLoop.tasksOf { loop with
          perPeer := loop.perPeer.insert other loop.nextSemaphore } peer =
            loop.tasksOf peer := tasksOf_congr rfl rfl entry
      exact tasks

theorem viewOf_spawn_self {semaphore : Nat}
    (entry : loop.perPeer.lookup peer = some semaphore) (connection : Nat)
    (roles : List String) :
    viewOf peer (loop.spawnServe peer connection roles semaphore).1 =
      { viewOf peer loop with
        permits := some (loop.semaphores semaphore - 1)
        tasks := (viewOf peer loop).tasks ++ [true] } := by
  refine PeerView.ext rfl rfl rfl rfl rfl ?_ ?_
  · change (loop.perPeer.lookup peer).map (Function.update loop.semaphores
      semaphore (loop.semaphores semaphore - 1)) = _
    rw [entry, Option.map_some, Function.update_self]
  · refine (tasksOf_spawn peer loop peer connection roles semaphore).trans ?_
    rw [if_pos rfl, entry, decide_eq_true rfl]
    rfl

theorem viewOf_spawn_other {other : PeerId} {semaphore : Nat}
    (owned : SemaphoresOwned loop)
    (entry : loop.perPeer.lookup other = some semaphore)
    (different : other ≠ peer) (connection : Nat) (roles : List String) :
    viewOf peer (loop.spawnServe other connection roles semaphore).1 =
      viewOf peer loop := by
  refine PeerView.ext rfl rfl rfl rfl rfl ?_ ?_
  · change (loop.perPeer.lookup peer).map (Function.update loop.semaphores
      semaphore (loop.semaphores semaphore - 1)) = _
    apply Option.map_congr
    intro handle held
    apply Function.update_of_ne
    rintro rfl
    exact different (owned.distinct other peer handle entry held)
  · refine (tasksOf_spawn peer loop other connection roles semaphore).trans ?_
    rw [if_neg different, List.append_nil]
    rfl

/-- A stream of the peer is refused for want of a global permit only. -/
def LacksGlobalPermit (registry : TunnelRegistry PeerId) (peer : PeerId)
    (transition : GuardTransition PeerId) : Prop :=
  ∃ connection carrier roles entered semaphore,
    transition.event = .incomingStream connection ∧
      transition.before.connections[connection]? = some carrier ∧
      carrier.peer = peer ∧ transition.before.shutdownDeadline = none ∧
      transition.before.authenticator.sessionRoles peer = some roles ∧
      peerSemaphore registry transition.before peer = (entered, semaphore) ∧
      0 < entered.semaphores semaphore ∧ entered.global = 0

theorem explains_stream_self {connection : Nat} {phase : ConnectionPhase}
    {next : GuardLoop PeerId} {actions : List (GuardAction PeerId)}
    (owned : SemaphoresOwned loop)
    (found : loop.connections[connection]? = some ⟨peer, phase⟩)
    (taken : acceptStream registry loop peer connection = (next, actions))
    (permitted : ¬ LacksGlobalPermit registry peer
      ⟨loop, .incomingStream connection, actions, next⟩) :
    (partyOf registry.maxStreamsPerPeer peer).Explains
      ⟨loop, .incomingStream connection, actions, next⟩ := by
  refine Party.explains_of_visible
    (congrArg (Option.map PeerEvent.stream) (rankedConnection_self found)) ?_
  change (viewOf peer loop).stream registry.maxStreamsPerPeer =
    (viewOf peer next, actions.filterMap (reactionOf peer next))
  unfold acceptStream at taken
  split at taken
  · rename_i stopping
    cases taken
    rw [PeerView.stream]
    exact if_pos stopping
  · rename_i running
    have serving : (viewOf peer loop).stopping = false :=
      Bool.eq_false_iff.mpr running
    cases session : loop.authenticator.sessionRoles peer with
    | none =>
        rw [session] at taken
        cases taken
        have cut := viewOf_disconnect peer loop peer
          loop.metrics.recordTunnelDenied
        rw [if_pos rfl] at cut
        have outside : (viewOf peer loop).session = none ∨
            (viewOf peer loop).roles = none := by
          cases had : loop.authenticator.sessions.lookup peer with
          | none => exact Or.inl had
          | some granted =>
              rw [sessionRoles, had] at session
              exact Or.inr session
        rw [PeerView.stream_of_unauthenticated serving outside]
        refine Prod.ext cut.symm ?_
        simp [reactionOf]
    | some roles =>
        rcases sessionRoles_eq_some_iff.mp session with
          ⟨⟨granted, had⟩, listed⟩
        rw [session] at taken
        rw [PeerView.stream_of_session serving had listed]
        cases reserved : peerSemaphore registry loop peer with
        | mk entered semaphore =>
            rcases viewOf_enter_self owned reserved with ⟨view, available⟩
            simp only [reserved] at taken
            rw [← available]
            rw [← available] at view
            split at taken
            · rename_i full
              cases taken
              exact (if_pos full).trans (Prod.ext view.symm rfl)
            · rename_i spare
              refine (if_neg spare).trans ?_
              split at taken
              · rename_i full
                exact absurd ⟨connection, ⟨peer, phase⟩, roles, entered,
                  semaphore, rfl, found, rfl, by simpa [viewOf] using serving,
                  session, reserved, Nat.pos_of_ne_zero spare, full⟩ permitted
              · have entry : entered.perPeer.lookup peer = some semaphore :=
                  (peerSemaphore_perPeer reserved peer).trans (if_pos rfl)
                have spawned := viewOf_spawn_self entry connection roles
                rw [view] at spawned
                cases taken
                refine Prod.ext spawned.symm ?_
                have captured := AList.lookup_insert (a := entered.nextTask)
                  (b := ServeTask.mk peer connection roles semaphore
                    (.readingHeader [])) entered.tasks
                simp [reactionOf, captured]

theorem explains_stream_other {connection : Nat} {other : PeerId}
    {phase : ConnectionPhase} {next : GuardLoop PeerId}
    {actions : List (GuardAction PeerId)} (owned : SemaphoresOwned loop)
    (found : loop.connections[connection]? = some ⟨other, phase⟩)
    (different : other ≠ peer)
    (taken : acceptStream registry loop other connection = (next, actions)) :
    (partyOf cap peer).Explains
      ⟨loop, .incomingStream connection, actions, next⟩ := by
  have hidden : viewOf peer next = viewOf peer loop ∧
      actions.filterMap (reactionOf peer next) = [] := by
    unfold acceptStream at taken
    split at taken
    · cases taken
      exact ⟨rfl, rfl⟩
    · cases session : loop.authenticator.sessionRoles other with
      | none =>
          rw [session] at taken
          cases taken
          have cut := viewOf_disconnect peer loop other
            loop.metrics.recordTunnelDenied
          rw [if_neg different] at cut
          exact ⟨cut, by simp [reactionOf, different]⟩
      | some roles =>
          rw [session] at taken
          cases reserved : peerSemaphore registry loop other with
          | mk entered semaphore =>
              have view := viewOf_enter_other owned reserved different
              have entry : entered.perPeer.lookup other = some semaphore :=
                (peerSemaphore_perPeer reserved other).trans (if_pos rfl)
              have spawned := viewOf_spawn_other (owned.enter reserved) entry
                different connection roles
              simp only [reserved] at taken
              split at taken
              · cases taken
                exact ⟨view, rfl⟩
              · split at taken
                · cases taken
                  exact ⟨view, rfl⟩
                · cases taken
                  exact ⟨spawned.trans view, by simp [reactionOf, different]⟩
  exact Party.explains_of_hidden
    (congrArg (Option.map PeerEvent.stream)
      (rankedConnection_other found different)) hidden.1 hidden.2

/-! ### Tasks -/

theorem explains_taskContinued {id : Nat} {task : ServeTask PeerId}
    {event : ServeEvent} (stage : ServeStage) (actions : List ServeAction)
    (found : loop.tasks.lookup id = some task) :
    (partyOf cap peer).Explains
      ⟨loop, .task id event, actions.map (.served id task.peer),
        { loop with
          tasks := loop.tasks.insert id { task with stage := stage } }⟩ := by
  have each : ∀ other, GuardLoop.taskOf { loop with
      tasks := loop.tasks.insert id { task with stage := stage } } peer other =
        loop.taskOf peer other := by
    intro other
    change ((loop.tasks.insert id _).lookup other).bind _ = _
    rw [lookup_insert_eq_ite, taskOf]
    split
    · rename_i same
      rw [same, found]
      rfl
    · rfl
  refine Party.explains_of_hidden ?_ ?_ ?_
  · refine if_neg ?_
    rintro ⟨-, gone⟩
    rw [AList.lookup_insert] at gone
    cases gone
  · refine PeerView.ext rfl rfl rfl rfl rfl rfl ?_
    exact congrArg (List.filterMap · (List.range loop.nextTask)) (funext each)
  · simp [partyOf, peerLog, reactionOf, List.filterMap_map,
      List.filterMap_eq_nil_iff]

omit [PeerIdentity PeerId] in
theorem taskOf_erase_ne {id other : Nat} (different : other ≠ id) :
    GuardLoop.taskOf { loop with tasks := loop.tasks.erase id } peer other =
      loop.taskOf peer other := by
  change ((loop.tasks.erase id).lookup other).bind _ = _
  rw [AList.lookup_erase_ne different]
  rfl

omit [PeerIdentity PeerId] in
theorem taskOf_erase_self (id : Nat) :
    GuardLoop.taskOf { loop with tasks := loop.tasks.erase id } peer id =
      none := by
  change ((loop.tasks.erase id).lookup id).bind _ = _
  rw [AList.lookup_erase]
  rfl

/-- A task of the peer ends: its permit goes back to the semaphore it was drawn
from, which may be the peer's current one. -/
theorem explains_taskEnded_self {id : Nat} {task : ServeTask PeerId}
    {event : ServeEvent} (numbered : TasksNumbered loop) (metrics : Metrics)
    (found : loop.tasks.lookup id = some task) (same : task.peer = peer) :
    (partyOf cap peer).Explains
      ⟨loop, .task id event, [.finished id],
        { loop with
          metrics := metrics
          tasks := loop.tasks.erase id
          semaphores := Function.update loop.semaphores task.semaphore
            (loop.semaphores task.semaphore + 1)
          global := loop.global + 1 }⟩ := by
  have kept : loop.taskOf peer id =
      some (decide (loop.perPeer.lookup peer = some task.semaphore)) :=
    taskOf_eq_some_iff.mpr ⟨task, found, same, rfl⟩
  have here : (List.range loop.nextTask)[id]? = some id :=
    List.getElem?_range (numbered id task found)
  have flag : (viewOf peer loop).tasks[taskRank peer loop id]? =
      some (decide (loop.perPeer.lookup peer = some task.semaphore)) :=
    getElem?_rank here kept
  have shown : (loop.taskOf peer id).isSome ∧
      (loop.tasks.erase id).lookup id = none := by
    rw [kept]
    exact ⟨rfl, AList.lookup_erase id loop.tasks⟩
  refine Party.explains_of_visible (if_pos shown)
    (Prod.ext (PeerView.ext rfl rfl rfl rfl rfl ?_ ?_) rfl)
  · change (if (viewOf peer loop).tasks[taskRank peer loop id]? = some true
      then (viewOf peer loop).permits.map (· + 1)
      else (viewOf peer loop).permits) =
        (loop.perPeer.lookup peer).map (Function.update loop.semaphores
          task.semaphore (loop.semaphores task.semaphore + 1))
    rw [flag, viewOf]
    cases entry : loop.perPeer.lookup peer with
    | none => rfl
    | some handle =>
        by_cases drawn : handle = task.semaphore
        · simp [drawn]
        · simp [drawn]
  · exact (filterMap_hide List.nodup_range here kept (taskOf_erase_self id)
      fun _ _ different => taskOf_erase_ne different).symm

/-- The permit of another peer's task was not drawn from the semaphore of this
peer. -/
theorem explains_taskEnded_other {id : Nat} {task : ServeTask PeerId}
    {event : ServeEvent} (owned : SemaphoresOwned loop) (metrics : Metrics)
    (found : loop.tasks.lookup id = some task) (different : task.peer ≠ peer) :
    (partyOf cap peer).Explains
      ⟨loop, .task id event, [.finished id],
        { loop with
          metrics := metrics
          tasks := loop.tasks.erase id
          semaphores := Function.update loop.semaphores task.semaphore
            (loop.semaphores task.semaphore + 1)
          global := loop.global + 1 }⟩ := by
  have absent : loop.taskOf peer id = none := by
    rw [taskOf, found]
    exact if_neg different
  have hidden : ¬ ((loop.taskOf peer id).isSome ∧
      (loop.tasks.erase id).lookup id = none) := by
    rw [absent]
    rintro ⟨shown, -⟩
    cases shown
  refine Party.explains_of_hidden (if_neg hidden)
    (PeerView.ext rfl rfl rfl rfl rfl ?_ ?_) rfl
  · change (loop.perPeer.lookup peer).map (Function.update loop.semaphores
      task.semaphore (loop.semaphores task.semaphore + 1)) = _
    apply Option.map_congr
    intro handle held
    apply Function.update_of_ne
    rintro rfl
    exact different (owned.own peer _ held id task found rfl)
  · apply List.filterMap_congr
    intro other member
    by_cases here : other = id
    · rw [here, absent]
      exact taskOf_erase_self id
    · exact taskOf_erase_ne here

/-! ### All of them -/

theorem runGuardLoop_explained {next : GuardLoop PeerId}
    {event : GuardEvent PeerId} {actions : List (GuardAction PeerId)}
    (owned : SemaphoresOwned loop) (numbered : TasksNumbered loop)
    (taken : runGuardLoop registry loop event = some (next, actions))
    (permitted : ¬ LacksGlobalPermit registry peer
      ⟨loop, event, actions, next⟩) :
    (partyOf registry.maxStreamsPerPeer peer).Explains
      ⟨loop, event, actions, next⟩ := by
  have accepted : ∀ connection, event = .incomingStream connection →
      (partyOf registry.maxStreamsPerPeer peer).Explains
        ⟨loop, event, actions, next⟩ := by
    rintro connection rfl
    rcases Option.ite_none_right_eq_some.mp taken with ⟨-, same⟩
    rcases Option.map_eq_some_iff.mp same with ⟨⟨owner, phase⟩, found, done⟩
    by_cases own : owner = peer
    · subst own
      exact explains_stream_self owned found done permitted
    · exact explains_stream_other owned found own done
  cases runGuardLoop_step taken with
  | connected sender => exact explains_connected sender
  | closed found others => exact explains_closed found others
  | closedLast found last => exact explains_closedLast found last
  | silenced sender channel channelOpen now nonce reason =>
      exact explains_silenced sender channel channelOpen now nonce reason
  | challenged sender channel channelOpen now nonce serving listed =>
      exact explains_challenged sender channel channelOpen now nonce serving
        listed
  | granted sender channel channelOpen now nonce signature timestamp pending
      acceptable =>
      exact explains_granted sender channel channelOpen now nonce signature
        timestamp pending acceptable
  | rejected sender channel channelOpen now nonce signature timestamp
      unacceptable =>
      exact explains_rejected sender channel channelOpen now nonce signature
        timestamp unacceptable
  | streamRefused | streamUnauthenticated | streamOverCap | streamSpawned =>
      exact accepted _ rfl
  | stopping gracePeriod now => exact explains_stopping gracePeriod now
  | revoked target now => exact explains_revoked target now
  | allowed allowed roles now => exact explains_allowed allowed roles now
  | reloaded newWhitelist now => exact explains_reloaded newWhitelist now
  | idle control running quiet => exact explains_idle control running quiet
  | taskContinued found resumed => exact explains_taskContinued _ _ found
  | taskEnded found resumed =>
      rename_i id task resumption outcome
      by_cases own : task.peer = peer
      · exact explains_taskEnded_self numbered _ found own
      · exact explains_taskEnded_other owned _ found own

end Step

/-! ## Two runs -/

section Runs

variable [PeerIdentity PeerId] {registry : TunnelRegistry PeerId}
    {whitelist : Whitelist PeerId} {peer : PeerId}

/-- Every transition of a run is explained, as long as no stream of the peer
lacks a global permit. -/
theorem explained_of_run {authenticator : GuardAuthenticator PeerId}
    {control : Bool} {metrics : Metrics}
    {connections : List (Connection PeerId)}
    {trace : List (GuardTransition PeerId)} {finish : GuardLoop PeerId}
    (run : Run (runGuardLoop registry)
      (GuardLoop.start authenticator registry control metrics connections)
      trace finish)
    (permitted : ∀ transition ∈ trace,
      ¬ LacksGlobalPermit registry peer transition) :
    ∀ transition ∈ trace,
      (partyOf registry.maxStreamsPerPeer peer).Explains transition := by
  intro transition member
  rcases List.append_of_mem member with ⟨earlier, later, rfl⟩
  rcases run.transition with ⟨prior, taken, -⟩
  have owned : SemaphoresOwned transition.before := by
    refine prior.invariant (semaphoresOwned_start authenticator registry control
      metrics connections) ?_
    intro state event next actions before moved
    exact before.step (runGuardLoop_step moved)
  have numbered : TasksNumbered transition.before := by
    have start : TasksNumbered (GuardLoop.start authenticator registry control
        metrics connections) := by
      intro id task present
      cases present
    refine prior.invariant start ?_
    intro state event next actions before moved
    exact before.step (runGuardLoop_step moved)
  exact runGuardLoop_explained owned numbered taken (permitted _ member)

/--
Two runs from the same whitelist that give a peer the same events, and the
Guard the same commands in between, show the peer the same reactions at the
same of these events, and none at any other transition, provided no stream of
the peer is refused for want of a global permit.
-/
theorem peers_isolated {control otherControl : Bool}
    {metrics otherMetrics : Metrics}
    {connections otherConnections : List (Connection PeerId)}
    {trace otherTrace : List (GuardTransition PeerId)}
    {finish otherFinish : GuardLoop PeerId}
    (run : Run (runGuardLoop registry)
      (GuardLoop.start (GuardAuthenticator.new whitelist) registry control
        metrics connections) trace finish)
    (otherRun : Run (runGuardLoop registry)
      (GuardLoop.start (GuardAuthenticator.new whitelist) registry otherControl
        otherMetrics otherConnections) otherTrace otherFinish)
    (samePhases : phasesOf peer connections = phasesOf peer otherConnections)
    (sameEvents : trace.filterMap (peerEvent peer) =
      otherTrace.filterMap (peerEvent peer))
    (permitted : ∀ transition ∈ trace ++ otherTrace,
      ¬ LacksGlobalPermit registry peer transition) :
    (partyOf registry.maxStreamsPerPeer peer).observed trace =
        (partyOf registry.maxStreamsPerPeer peer).observed otherTrace ∧
      ∀ transition ∈ trace ++ otherTrace,
        peerEvent peer transition = none → peerLog peer transition = [] := by
  have explained := explained_of_run run fun transition member =>
    permitted transition (List.mem_append_left _ member)
  have otherExplained := explained_of_run otherRun fun transition member =>
    permitted transition (List.mem_append_right _ member)
  constructor
  · refine Party.observed_eq run otherRun explained otherExplained ?_ sameEvents
    exact PeerView.ext rfl rfl rfl rfl samePhases rfl rfl
  · intro transition member quiet
    rcases List.mem_append.mp member with here | there
    · exact ((explained transition here).hidden quiet).2
    · exact ((otherExplained transition there).hidden quiet).2

theorem LacksGlobalPermit.global {transition : GuardTransition PeerId}
    (lacks : LacksGlobalPermit registry peer transition) :
    transition.before.global = 0 := by
  rcases lacks with
    ⟨connection, carrier, roles, entered, semaphore, -, -, -, -, -, reserved, -,
      exhausted⟩
  rcases peerSemaphore_cases reserved with ⟨-, rfl⟩ | ⟨-, -, rfl⟩
  · exact exhausted
  · exact exhausted

end Runs

section SmallRun

open SmallGuard

/-- Another peer connects first, is refused and leaves in between. -/
def crowded : List (GuardEvent BytePeer) :=
  [.connectionEstablished ⟨2⟩, .connectionEstablished peer, asks 0 nonce,
    .request ⟨2⟩ 5 true .handshakeInit 0 nonce, answers 1 nonce,
    .connectionClosed 0, .incomingStream 1]

/-- What the peer does in that run, and when it is alone. -/
def alone : List (PeerEvent BytePeer) :=
  [.connected, .asked 0 true 0 nonce,
    .answered 1 true (peer.sign (challengePayload nonce 0).toList) 0 0,
    .stream 0]

/-- The peer does the same, and the global cap is never reached. -/
def showsAlone
    (result : List (GuardTransition BytePeer) × GuardLoop BytePeer) : Bool :=
  decide (result.1.filterMap (peerEvent peer) = alone) &&
    result.1.all fun transition => decide (transition.before.global ≠ 0)

theorem peers_isolated_small :
    ∃ trace finish otherTrace otherFinish,
      Run (runGuardLoop registry) start trace finish ∧
      Run (runGuardLoop registry) start otherTrace otherFinish ∧
      trace.map Transition.event = handshake ++ [.incomingStream 0] ∧
      otherTrace.map Transition.event = crowded ∧
      (partyOf registry.maxStreamsPerPeer peer).observed trace =
        (partyOf registry.maxStreamsPerPeer peer).observed otherTrace := by
  have computed : (execute (runGuardLoop registry) start
      (handshake ++ [.incomingStream 0])).any showsAlone = true := by
    decide +kernel
  have otherComputed : (execute (runGuardLoop registry) start crowded).any
      showsAlone = true := by
    decide +kernel
  rcases exists_run_of_any computed with ⟨trace, finish, run, events, shown⟩
  rcases exists_run_of_any otherComputed with
    ⟨otherTrace, otherFinish, otherRun, otherEvents, otherShows⟩
  rcases (Bool.and_eq_true _ _).mp shown with ⟨same, spare⟩
  rcases (Bool.and_eq_true _ _).mp otherShows with ⟨otherSame, otherSpare⟩
  refine ⟨trace, finish, otherTrace, otherFinish, run, otherRun, events,
    otherEvents, (peers_isolated run otherRun rfl ?_ ?_).1⟩
  · exact (of_decide_eq_true same).trans (of_decide_eq_true otherSame).symm
  · intro transition member lacks
    have exhausted := lacks.global
    rcases List.mem_append.mp member with here | there
    · exact of_decide_eq_true (List.all_eq_true.mp spare transition here)
        exhausted
    · exact of_decide_eq_true (List.all_eq_true.mp otherSpare transition there)
        exhausted

end SmallRun

end NuxAuth.Core
