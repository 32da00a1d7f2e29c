import NuxAuth.Core.GuardTables

/-!
# Replacing the whitelist, and editing it entry by entry

`ReloadWhitelist` replaces the whole list and then revokes the peers that had a
session and are no longer listed.  The same list can be reached by a `Revoke`
for every listed peer that the new list lacks and an `Allow` for every entry of
the new list.

The two leave the same whitelist and the same sessions, and disconnect the same
peers.  They agree on the pending challenges exactly if no peer that is dropped
has one without having a session: `Revoke` discards it, the reload does not
look at it.
-/

namespace NuxAuth.Core

open NuxAuth.Lib.FiniteTable NuxAuth.Lib.KeyedList
open NuxAuth.Lib.RecordedRun
open GuardLoop GuardAuthenticator

variable {PeerId : Type} [DecidableEq PeerId] [PeerIdentity PeerId]

namespace GuardLoop

/-- Commands received one after the other, at one clock reading. -/
def handleControls (loop : GuardLoop PeerId) (now : Nat) :
    List (GuardControl PeerId) → GuardLoop PeerId × List (GuardAction PeerId)
  | [] => (loop, [])
  | command :: rest =>
      let (handled, actions) := loop.handleControl now command
      let (finished, later) := handled.handleControls now rest
      (finished, actions ++ later)

/-- The peers listed now that the new list lacks. -/
def dropped (loop : GuardLoop PeerId) (newWhitelist : Whitelist PeerId) :
    List PeerId :=
  (loop.authenticator.whitelist.entries.map Prod.fst).filter fun peer =>
    (newWhitelist.roles peer).isNone

/-- A command for every peer that is dropped and for every entry to come. -/
def entryByEntry (loop : GuardLoop PeerId)
    (newWhitelist : Whitelist PeerId) : List (GuardControl PeerId) :=
  (loop.dropped newWhitelist).map GuardControl.revoke ++
    newWhitelist.entries.map fun entry => .allow entry.1 entry.2

/-- No dropped peer has a challenge to answer without having a session. -/
def NoStrayChallenge (loop : GuardLoop PeerId)
    (newWhitelist : Whitelist PeerId) : Prop :=
  ∀ peer, loop.Listed peer → newWhitelist.roles peer = none →
    ¬ loop.HasSession peer → loop.authenticator.pending.lookup peer = none

end GuardLoop

/-- Two outcomes with the same whitelist, as a map, the same sessions and
pending challenges, and the same peers disconnected. -/
structure SameAccess
    (left right : GuardLoop PeerId × List (GuardAction PeerId)) : Prop where
  whitelist : ∀ peer, left.1.authenticator.whitelist.roles peer =
    right.1.authenticator.whitelist.roles peer
  sessions : ∀ peer, left.1.authenticator.sessions.lookup peer =
    right.1.authenticator.sessions.lookup peer
  pending : ∀ peer, left.1.authenticator.pending.lookup peer =
    right.1.authenticator.pending.lookup peer
  disconnected : ∀ peer,
    .disconnect peer ∈ left.2 ↔ .disconnect peer ∈ right.2

/-- The peer is granted the roles on an answer to this challenge. -/
structure GrantsOn (peer : PeerId) (roles : List String)
    (challenge : IssuedChallenge) (grant : GuardTransition PeerId) : Prop where
  pending : grant.before.authenticator.pending.lookup peer = some challenge
  answered : ∃ channel channelOpen signature timestamp now nonce,
    grant.event = .request peer channel channelOpen
        (.challengeAnswer signature timestamp) now nonce ∧
      Acceptable grant.before.authenticator.whitelist challenge peer signature
        timestamp now roles

/-! ## Revoking and allowing one by one -/

omit [PeerIdentity PeerId] in
/-- Whoever is revoked is disconnected if it had a session. -/
theorem disconnect_mem_revokePeers_iff (loop : GuardLoop PeerId)
    (peers : List PeerId) (peer : PeerId) :
    .disconnect peer ∈ (loop.revokePeers peers).2 ↔
      peer ∈ peers ∧ loop.HasSession peer := by
  induction peers generalizing loop with
  | nil => simp [revokePeers]
  | cons first rest induction =>
      have first_iff : .disconnect peer ∈ (loop.revokePeer first).2 ↔
          peer = first ∧ loop.HasSession peer := by
        cases session : loop.authenticator.sessions.lookup first with
        | none =>
            simp only [revokePeer, GuardAuthenticator.revoke, session,
              Option.isSome_none, List.mem_singleton, reduceCtorEq, false_iff,
              not_and]
            rintro rfl ⟨roles, had⟩
            rw [session] at had
            cases had
        | some roles =>
            simp only [revokePeer, GuardAuthenticator.revoke, session,
              Option.isSome_some, List.mem_cons, reduceCtorEq, false_or,
              List.not_mem_nil, or_false, GuardAction.disconnect.injEq]
            constructor
            · rintro rfl
              exact ⟨rfl, roles, session⟩
            · exact And.left
      have kept : (loop.revokePeer first).1.HasSession peer ↔
          peer ≠ first ∧ loop.HasSession peer := by
        have sessions := (revokePeer_revocation loop first).sessions peer
        rw [HasSession, sessions, HasSession]
        by_cases same : peer = first
        · simp [same]
        · simp [same]
      change .disconnect peer ∈ (loop.revokePeer first).2 ++
        ((loop.revokePeer first).1.revokePeers rest).2 ↔ _
      rw [List.mem_append, first_iff, induction, kept, List.mem_cons]
      tauto

theorem handleControls_append (loop : GuardLoop PeerId) (now : Nat)
    (front back : List (GuardControl PeerId)) :
    loop.handleControls now (front ++ back) =
      (((loop.handleControls now front).1.handleControls now back).1,
        (loop.handleControls now front).2 ++
          ((loop.handleControls now front).1.handleControls now back).2) := by
  induction front generalizing loop with
  | nil => rfl
  | cons command rest induction =>
      simp only [List.cons_append, handleControls, induction, List.append_assoc]

theorem handleControls_revoke (loop : GuardLoop PeerId) (now : Nat)
    (peers : List PeerId) :
    loop.handleControls now (peers.map GuardControl.revoke) =
      loop.revokePeers peers := by
  induction peers generalizing loop with
  | nil => rfl
  | cons peer rest induction =>
      simp only [List.map_cons, handleControls, handleControl, revokePeers,
        induction]

/-- The whitelist after an `allow` for every entry. -/
def allowEntries (list : Whitelist PeerId)
    (entries : List (PeerId × List String)) : Whitelist PeerId :=
  entries.foldl (fun list entry => list.allow entry.1 entry.2) list

theorem handleControls_allow (loop : GuardLoop PeerId) (now : Nat)
    (entries : List (PeerId × List String)) :
    loop.handleControls now
        (entries.map fun entry => .allow entry.1 entry.2) =
      (loop.replaceWhitelist
        (allowEntries loop.authenticator.whitelist entries), []) := by
  induction entries generalizing loop with
  | nil => rfl
  | cons entry rest induction =>
      simp only [List.map_cons, handleControls, handleControl, induction]
      rfl

theorem roles_allowEntries_unlisted {entries : List (PeerId × List String)}
    {peer : PeerId} (unlisted : peer ∉ entries.map Prod.fst)
    (list : Whitelist PeerId) :
    (allowEntries list entries).roles peer = list.roles peer := by
  induction entries generalizing list with
  | nil => rfl
  | cons entry rest induction =>
      rw [List.map_cons, List.mem_cons, not_or] at unlisted
      have later := induction unlisted.2 (list.allow entry.1 entry.2)
      rw [Whitelist.roles_allow, Function.update_of_ne unlisted.1] at later
      exact later

theorem roles_allowEntries_listed {entries : List (PeerId × List String)}
    (distinct : DistinctKeys Prod.fst entries) {peer : PeerId}
    {granted : List String} (listed : (peer, granted) ∈ entries)
    (list : Whitelist PeerId) :
    (allowEntries list entries).roles peer = some granted := by
  induction entries generalizing list with
  | nil => cases listed
  | cons entry rest induction =>
      rcases List.nodup_cons.mp distinct with ⟨once, others⟩
      rcases List.mem_cons.mp listed with rfl | later
      · have kept := roles_allowEntries_unlisted once
          (list.allow peer granted)
        rw [Whitelist.roles_allow, Function.update_self] at kept
        exact kept
      · exact induction others later (list.allow entry.1 entry.2)

/-- Allowing the entries of a list one by one overrides what was there. -/
theorem roles_allowEntries (list newWhitelist : Whitelist PeerId)
    (peer : PeerId) :
    (allowEntries list newWhitelist.entries).roles peer =
      (newWhitelist.roles peer).or (list.roles peer) := by
  cases listed : newWhitelist.roles peer with
  | some granted =>
      exact roles_allowEntries_listed newWhitelist.distinct
        ((newWhitelist.roles_eq_some_iff peer granted).mp listed) list
  | none =>
      apply roles_allowEntries_unlisted
      intro member
      rcases List.mem_map.mp member with ⟨⟨_, granted⟩, entry, rfl⟩
      have present := (newWhitelist.roles_eq_some_iff _ granted).mpr entry
      rw [listed] at present
      cases present

omit [DecidableEq PeerId] in
theorem mem_dropped_iff {loop : GuardLoop PeerId}
    {newWhitelist : Whitelist PeerId} {peer : PeerId} :
    peer ∈ loop.dropped newWhitelist ↔
      loop.Listed peer ∧ newWhitelist.roles peer = none := by
  rw [dropped, List.mem_filter, Option.isNone_iff_eq_none, List.mem_map]
  apply and_congr_left
  intro absent
  constructor
  · rintro ⟨⟨_, granted⟩, entry, rfl⟩
    exact ⟨granted, (Whitelist.roles_eq_some_iff _ _ _).mpr entry⟩
  · rintro ⟨granted, listed⟩
    exact ⟨(peer, granted), (Whitelist.roles_eq_some_iff _ _ _).mp listed, rfl⟩

/-! ## Comparing the two -/

/-- Entry by entry, the dropped peers are revoked and the entries allowed. -/
theorem handleControls_entryByEntry (loop : GuardLoop PeerId) (now : Nat)
    (newWhitelist : Whitelist PeerId) :
    loop.handleControls now (loop.entryByEntry newWhitelist) =
      ((loop.revokePeers (loop.dropped newWhitelist)).1.replaceWhitelist
          (allowEntries
            (loop.revokePeers
              (loop.dropped newWhitelist)).1.authenticator.whitelist
            newWhitelist.entries),
        (loop.revokePeers (loop.dropped newWhitelist)).2) := by
  rw [entryByEntry, handleControls_append, handleControls_revoke,
    handleControls_allow, List.append_nil]

/-- What is erased for the dropped peers is erased for the revoked ones, unless
a dropped peer without a session had it. -/
theorem ite_toRevoke_eq {Value : Type} {loop : GuardLoop PeerId}
    {newWhitelist : Whitelist PeerId} {peer : PeerId} {value : Option Value}
    (nested : loop.HasSession peer → loop.Listed peer)
    (unstray : loop.Listed peer → newWhitelist.roles peer = none →
      ¬ loop.HasSession peer → value = none) :
    (if peer ∈ loop.toRevoke newWhitelist then none else value) =
      if peer ∈ loop.dropped newWhitelist then none else value := by
  by_cases revoked : peer ∈ loop.toRevoke newWhitelist
  · rcases mem_toRevoke_iff.mp revoked with ⟨session, absent⟩
    rw [if_pos revoked,
      if_pos (mem_dropped_iff.mpr ⟨nested session, absent⟩)]
  · rw [if_neg revoked]
    split
    · rename_i gone
      rcases mem_dropped_iff.mp gone with ⟨listed, absent⟩
      exact unstray listed absent
        fun session => revoked (mem_toRevoke_iff.mpr ⟨session, absent⟩)
    · rfl

/-- Whether the revoked peers are taken from the new list, or the entries of
the new list override what the dropped peers leave. -/
theorem ite_toRevoke_roles (loop : GuardLoop PeerId)
    (newWhitelist : Whitelist PeerId) (peer : PeerId) :
    (if peer ∈ loop.toRevoke newWhitelist then none
      else newWhitelist.roles peer) =
      (newWhitelist.roles peer).or
        (if peer ∈ loop.dropped newWhitelist then none
          else loop.authenticator.whitelist.roles peer) := by
  cases listed : newWhitelist.roles peer with
  | some granted =>
      have kept : peer ∉ loop.toRevoke newWhitelist := by
        intro revoked
        rw [(mem_toRevoke_iff.mp revoked).2] at listed
        cases listed
      rw [if_neg kept]
      rfl
  | none =>
      rw [ite_self, Option.none_or]
      split
      · rfl
      · rename_i kept
        cases stored : loop.authenticator.whitelist.roles peer with
        | none => rfl
        | some granted =>
            exact absurd (mem_dropped_iff.mpr ⟨⟨granted, stored⟩, listed⟩) kept

/-- Among the peers with a session, the revoked ones are the dropped ones. -/
theorem toRevoke_iff_dropped {loop : GuardLoop PeerId}
    {newWhitelist : Whitelist PeerId} {peer : PeerId}
    (nested : loop.HasSession peer → loop.Listed peer) :
    peer ∈ loop.toRevoke newWhitelist ∧ loop.HasSession peer ↔
      peer ∈ loop.dropped newWhitelist ∧ loop.HasSession peer := by
  rw [mem_toRevoke_iff, mem_dropped_iff]
  constructor
  · rintro ⟨⟨session, absent⟩, -⟩
    exact ⟨⟨nested session, absent⟩, session⟩
  · rintro ⟨⟨-, absent⟩, session⟩
    exact ⟨⟨session, absent⟩, session⟩

/-- With sessions inside the whitelist, only stray challenges tell a reload
from the commands entry by entry. -/
theorem sameAccess_iff {loop : GuardLoop PeerId}
    (nested : ∀ peer, loop.HasSession peer → loop.Listed peer) (now : Nat)
    (newWhitelist : Whitelist PeerId) :
    SameAccess (loop.handleControl now (.reloadWhitelist newWhitelist))
        (loop.handleControls now (loop.entryByEntry newWhitelist)) ↔
      loop.NoStrayChallenge newWhitelist := by
  have reload := revokePeers_revocation (loop.replaceWhitelist newWhitelist)
    (loop.toRevoke newWhitelist)
  have entries := revokePeers_revocation loop (loop.dropped newWhitelist)
  have pending : ∀ peer,
      (loop.handleControl now
          (.reloadWhitelist newWhitelist)).1.authenticator.pending.lookup peer =
        if peer ∈ loop.toRevoke newWhitelist then none
        else loop.authenticator.pending.lookup peer :=
    reload.pending
  rw [handleControls_entryByEntry]
  constructor
  · intro same peer listed absent idle
    have agree := same.pending peer
    rw [pending peer, if_neg fun revoked => idle (mem_toRevoke_iff.mp revoked).1]
      at agree
    rw [agree]
    exact (entries.pending peer).trans
      (if_pos (mem_dropped_iff.mpr ⟨listed, absent⟩))
  · intro unstray
    constructor
    case whitelist =>
      intro peer
      change _ = (allowEntries _ newWhitelist.entries).roles peer
      rw [roles_allowEntries, entries.roles]
      exact (reload.roles peer).trans (ite_toRevoke_roles loop newWhitelist peer)
    case sessions =>
      intro peer
      have idle : loop.Listed peer → newWhitelist.roles peer = none →
          ¬ loop.HasSession peer →
            loop.authenticator.sessions.lookup peer = none := by
        intro _ _ without
        exact Option.eq_none_iff_forall_ne_some.mpr
          fun roles session => without ⟨roles, session⟩
      exact ((reload.sessions peer).trans
        (ite_toRevoke_eq (nested peer) idle)).trans (entries.sessions peer).symm
    case pending =>
      intro peer
      exact ((reload.pending peer).trans
        (ite_toRevoke_eq (nested peer) (unstray peer))).trans
          (entries.pending peer).symm
    case disconnected =>
      intro peer
      refine (disconnect_mem_revokePeers_iff _ _ peer).trans ?_
      refine Iff.trans ?_ (disconnect_mem_revokePeers_iff _ _ peer).symm
      exact toRevoke_iff_dropped (nested peer)

/-! ## Challenges after a reload -/

/-- A challenge is issued, or was pending before. -/
theorem GuardStep.pending_origin {registry : TunnelRegistry PeerId}
    {loop next : GuardLoop PeerId} {event : GuardEvent PeerId}
    {actions : List (GuardAction PeerId)}
    (step : GuardStep registry loop event next actions) {peer : PeerId}
    {challenge : IssuedChallenge}
    (pending : next.authenticator.pending.lookup peer = some challenge) :
    loop.authenticator.pending.lookup peer = some challenge ∨
      .issued peer (.challenge challenge.nonce challenge.issuedAt) ∈
        actions := by
  have erased : ∀ {gone : PeerId},
      (loop.authenticator.pending.erase gone).lookup peer = some challenge →
        loop.authenticator.pending.lookup peer = some challenge := by
    intro gone present
    rw [lookup_erase_eq_ite] at present
    exact (Option.ite_none_left_eq_some.mp present).2
  cases step with
  | closedLast found last => exact Or.inl (erased pending)
  | challenged challenged channel channelOpen now nonce serving listed =>
      change (loop.authenticator.pending.insert challenged _).lookup peer = _
        at pending
      rw [lookup_insert_eq_ite] at pending
      split at pending
      · rename_i same
        subst same
        cases pending
        exact Or.inr List.mem_cons_self
      · exact Or.inl pending
  | granted granted channel channelOpen now nonce signature timestamp present
      acceptable =>
      exact Or.inl (erased pending)
  | rejected rejected channel channelOpen now nonce signature timestamp
      unacceptable =>
      exact Or.inl (erased pending)
  | streamOverCap found serving authorized reserved full =>
      rw [denyStream, peerSemaphore_authenticator reserved] at pending
      exact Or.inl pending
  | streamSpawned found serving authorized reserved permitted =>
      rw [spawnServe, peerSemaphore_authenticator reserved] at pending
      exact Or.inl pending
  | revoked revokedPeer now =>
      rw [(revokePeers_revocation loop [revokedPeer]).pending] at pending
      exact Or.inl (Option.ite_none_left_eq_some.mp pending).2
  | reloaded newWhitelist now =>
      rw [(revokePeers_revocation (loop.replaceWhitelist newWhitelist)
        _).pending] at pending
      exact Or.inl (Option.ite_none_left_eq_some.mp pending).2
  | _ => exact Or.inl pending

/-- Without a challenge at first, a pending one was issued during the run. -/
theorem issued_of_run {registry : TunnelRegistry PeerId}
    {start finish : GuardLoop PeerId} {trace : List (GuardTransition PeerId)}
    (run : Run (runGuardLoop registry) start trace finish) {peer : PeerId}
    (nothing : start.authenticator.pending.lookup peer = none)
    {challenge : IssuedChallenge}
    (pending : finish.authenticator.pending.lookup peer = some challenge) :
    ∃ transition ∈ trace,
      .issued peer (.challenge challenge.nonce challenge.issuedAt) ∈
        transition.actions := by
  induction run with
  | start =>
      rw [nothing] at pending
      cases pending
  | snoc prior taken induction =>
      rcases (runGuardLoop_step taken).pending_origin pending with
        before | logged
      · rcases induction before with ⟨transition, member, issued⟩
        exact ⟨transition, List.mem_append_left _ member, issued⟩
      · exact ⟨_, List.mem_append_right _ (List.mem_singleton_self _),
          logged⟩

/-- A reload without stray challenges leaves none to the peers it drops. -/
theorem pending_after_reload {registry : TunnelRegistry PeerId}
    {loop next : GuardLoop PeerId} {actions : List (GuardAction PeerId)}
    {newWhitelist : Whitelist PeerId} {now : Nat} {peer : PeerId}
    (taken : runGuardLoop registry loop
      (.control (.reloadWhitelist newWhitelist) now) = some (next, actions))
    (unstray : loop.NoStrayChallenge newWhitelist)
    (listed : loop.Listed peer) (absent : newWhitelist.roles peer = none) :
    next.authenticator.pending.lookup peer = none := by
  cases runGuardLoop_step taken with
  | idle control running quiet => simp at quiet
  | reloaded =>
      rw [(revokePeers_revocation (loop.replaceWhitelist newWhitelist)
        _).pending]
      split
      · rfl
      · rename_i kept
        exact unstray peer listed absent
          fun session => kept (mem_toRevoke_iff.mpr ⟨session, absent⟩)

/--
In every reached state a reload does what the commands entry by entry do, if
and only if no dropped peer has a challenge without a session; and after a
reload of that kind a dropped peer is only granted on the answer to a challenge
that was issued to it since.
-/
theorem reload_entry_by_entry_iff {registry : TunnelRegistry PeerId}
    {whitelist : Whitelist PeerId} {control : Bool} {metrics : Metrics}
    {connections : List (Connection PeerId)}
    {trace : List (GuardTransition PeerId)} {finish : GuardLoop PeerId}
    (run : Run (runGuardLoop registry)
      (GuardLoop.start (GuardAuthenticator.new whitelist) registry control
        metrics connections) trace finish) :
    (∀ newWhitelist now,
      SameAccess (finish.handleControl now (.reloadWhitelist newWhitelist))
          (finish.handleControls now (finish.entryByEntry newWhitelist)) ↔
        finish.NoStrayChallenge newWhitelist) ∧
      ∀ earlier reload middle grant later newWhitelist now peer roles,
        trace = earlier ++ reload :: (middle ++ grant :: later) →
          reload.event = .control (.reloadWhitelist newWhitelist) now →
            reload.before.NoStrayChallenge newWhitelist →
              reload.before.Listed peer → newWhitelist.roles peer = none →
                .verified peer (.granted roles) ∈ grant.actions →
                  ∃ issue ∈ middle, ∃ challenge,
                    .issued peer (.challenge challenge.nonce
                        challenge.issuedAt) ∈ issue.actions ∧
                      GrantsOn peer roles challenge grant := by
  constructor
  · intro newWhitelist now
    have nested : Nested finish := by
      refine run.invariant (nested_start whitelist registry control metrics
        connections) ?_
      intro state event next actions before taken
      exact before.step (runGuardLoop_step taken)
    exact sameAccess_iff nested.sessions now newWhitelist
  · rintro earlier reload middle grant later newWhitelist now peer roles rfl
      reloads unstray listed absent granted
    rcases run.transition with ⟨-, atReload, afterReload⟩
    rcases afterReload.transition with ⟨between, atGrant, -⟩
    rw [reloads] at atReload
    have nothing := pending_after_reload atReload unstray listed absent
    rcases (runGuardLoop_step atGrant).granted_answer granted with
      ⟨channel, channelOpen, signature, timestamp, clock, nonce, challenge,
        answers, pending, acceptable⟩
    rcases issued_of_run between nothing pending with ⟨issue, member, issued⟩
    exact ⟨issue, member, challenge, issued, pending, channel, channelOpen,
      signature, timestamp, clock, nonce, answers, acceptable⟩

section SmallRun

open SmallGuard

/-- The peer is dropped, allowed again, and authenticates from the start. -/
def reloadedAndBack : List (GuardEvent BytePeer) :=
  handshake ++ .control (.reloadWhitelist Whitelist.new) 0 ::
    ([.control (.allow peer ["reader"]) 0, asks 2 nonce] ++ [answers 3 nonce])

omit [DecidableEq PeerId] in
theorem noStrayChallenge_of_isEmpty [DecidableEq PeerId]
    {loop : GuardLoop PeerId} {newWhitelist : Whitelist PeerId}
    (empty : loop.authenticator.pending.entries.isEmpty = true) :
    loop.NoStrayChallenge newWhitelist := by
  intro peer _ _ _
  rw [List.isEmpty_iff] at empty
  rw [AList.lookup, empty]
  rfl

theorem reload_entry_by_entry_iff_small :
    ∃ trace finish,
      Run (runGuardLoop registry) start trace finish ∧
      trace.map Transition.event = reloadedAndBack ∧
      SameAccess (finish.handleControl 0 (.reloadWhitelist Whitelist.new))
        (finish.handleControls 0 (finish.entryByEntry Whitelist.new)) ∧
      ∃ issue ∈ trace.drop 4, ∃ grant, trace.getLast? = some grant ∧
        ∃ challenge,
          .issued peer (.challenge challenge.nonce challenge.issuedAt) ∈
              issue.actions ∧
            GrantsOn peer ["reader"] challenge grant := by
  have computed : (execute (runGuardLoop registry) start reloadedAndBack).any
      (fun result =>
        result.2.authenticator.pending.entries.isEmpty &&
          (result.1[3]?.any (fun reload =>
              reload.before.authenticator.pending.entries.isEmpty &&
                decide (reload.before.authenticator.whitelist.roles peer =
                  some ["reader"])) &&
            result.1.getLast?.any fun grant =>
              logs grant (.verified peer (.granted ["reader"])))) = true := by
    decide +kernel
  rcases exists_run_of_any computed with ⟨trace, finish, run, events, observed⟩
  simp only [Bool.and_eq_true, Option.any_eq_true, logs_iff,
    decide_eq_true_eq] at observed
  rcases observed with
    ⟨empty, ⟨reload, fourth, emptyThen, listed⟩, grant, last, granted⟩
  rcases reload_entry_by_entry_iff run with ⟨same, answered⟩
  refine ⟨trace, finish, run, events,
    (same _ 0).mpr (noStrayChallenge_of_isEmpty empty), ?_⟩
  rcases List.map_eq_append_iff.mp events with ⟨earlier, rest, rfl, prior, more⟩
  rcases List.map_eq_cons_iff.mp more with ⟨mark, tail, rfl, reloads, after⟩
  rcases List.map_eq_append_iff.mp after with ⟨middle, ends, rfl, -, final⟩
  rcases List.map_eq_singleton_iff.mp final with ⟨closing, rfl, -⟩
  have three : earlier.length = 3 := by
    simpa [handshake] using congrArg List.length prior
  have sameMark : mark = reload := by
    simpa [three] using fourth
  have sameGrant : closing = grant := by
    simpa [List.getLast?_cons] using last
  subst sameMark sameGrant
  rcases answered earlier mark middle closing [] _ 0 peer ["reader"] rfl reloads
      (noStrayChallenge_of_isEmpty emptyThen) ⟨_, listed⟩ rfl granted with
    ⟨issue, member, answer⟩
  refine ⟨issue, ?_, closing, last, answer⟩
  simp [List.drop_append, three, member]

/-- The peer holds a challenge but no session when it is dropped. -/
def answeredAfterReload : List (GuardEvent BytePeer) :=
  [.connectionEstablished peer, asks 0 nonce,
    .control (.reloadWhitelist Whitelist.new) 0,
    .control (.allow peer ["reader"]) 0, answers 1 nonce]

theorem stray_challenge_answered :
    ∃ trace finish,
      Run (runGuardLoop registry) start trace finish ∧
      trace.map Transition.event = answeredAfterReload ∧
      (∃ grant, trace.getLast? = some grant ∧
        .verified peer (.granted ["reader"]) ∈ grant.actions) ∧
      ∃ reload ∈ trace,
        reload.event = .control (.reloadWhitelist Whitelist.new) 0 ∧
        ¬ SameAccess
          (reload.before.handleControl 0 (.reloadWhitelist Whitelist.new))
          (reload.before.handleControls 0
            (reload.before.entryByEntry Whitelist.new)) := by
  have computed : (execute (runGuardLoop registry) start
      answeredAfterReload).any (fun result =>
        (result.1.getLast?.any fun grant =>
          logs grant (.verified peer (.granted ["reader"]))) &&
        result.1[2]?.any fun reload =>
          ((reload.before.handleControl 0 (.reloadWhitelist Whitelist.new)
            ).1.authenticator.pending.lookup peer).isSome &&
          ((reload.before.handleControls 0
            (reload.before.entryByEntry Whitelist.new)
              ).1.authenticator.pending.lookup peer).isNone) = true := by
    decide +kernel
  rcases exists_run_of_any computed with ⟨trace, finish, run, events, observed⟩
  simp only [Bool.and_eq_true, Option.any_eq_true, logs_iff] at observed
  rcases observed with ⟨granted, reload, third, left, discarded⟩
  refine ⟨trace, finish, run, events, granted, reload,
    List.mem_of_getElem? third, ?_, ?_⟩
  · have named := congrArg (fun events => events[2]?) events
    simpa [answeredAfterReload, third] using named
  · intro same
    rw [same.pending peer, Option.isNone_iff_eq_none.mp discarded] at left
    cases left

end SmallRun

end NuxAuth.Core
