import NuxAuth.Lib.RecordedRun
import NuxAuth.Core.Authenticator

/-!
# Grants answer challenges

Every use of a `GuardAuthenticator` is a sequence of its operations, with the
whitelist edited at will through `whitelist_mut`.  A pending challenge is
traced back to the call that issued it: no operation on the peer came between,
except calls to `issue_at` that issued nothing.  A grant consumes the challenge
it answers, so two grants never answer the same one.
-/

namespace NuxAuth.Core

open NuxAuth.Lib.FiniteTable
open NuxAuth.Lib.RecordedRun

/-! ## Operations and their results -/

/-- The operations on an authenticator, with the readings they are given. -/
inductive AuthOperation (PeerId : Type) where
  | issueAt (peer : PeerId) (now : UInt64) (nonce : Nonce)
  | verifyAt (peer : PeerId) (signature : List UInt8)
      (timestamp now : UInt64)
  | endSession (peer : PeerId)
  | revoke (peer : PeerId)
  | editWhitelist (edited : Whitelist PeerId)

/-- What the operations return. -/
inductive AuthResult where
  | issued (response : Option NuxResponse)
  | verified (outcome : AuthOutcome)
  | sessionEnded
  | revoked (hadSession : Bool)
  | edited
deriving DecidableEq

/-- One recorded operation. -/
abbrev AuthTransition (PeerId : Type) :=
  Transition (GuardAuthenticator PeerId) (AuthOperation PeerId) AuthResult

variable {PeerId : Type} [DecidableEq PeerId] [PeerIdentity PeerId]

namespace GuardAuthenticator

/-- One operation on the authenticator and what it returned. -/
def perform : Step (GuardAuthenticator PeerId) (AuthOperation PeerId)
    AuthResult
  | guard, .issueAt peer now nonce =>
      let (next, response) := guard.issueAt peer now nonce
      some (next, [.issued response])
  | guard, .verifyAt peer signature timestamp now =>
      let (next, outcome) := guard.verifyAt peer signature timestamp now
      some (next, [.verified outcome])
  | guard, .endSession peer => some (guard.endSession peer, [.sessionEnded])
  | guard, .revoke peer =>
      let (next, hadSession) := guard.revoke peer
      some (next, [.revoked hadSession])
  | guard, .editWhitelist edited =>
      some ({ guard with whitelist := edited }, [.edited])

end GuardAuthenticator

/-- The clock reading of an operation that takes one. -/
def AuthOperation.clock? : AuthOperation PeerId → Option UInt64
  | .issueAt _ now _ => some now
  | .verifyAt _ _ _ now => some now
  | _ => none

/-- The clock readings of a history, in order. -/
def clocks (history : List (AuthTransition PeerId)) : List UInt64 :=
  history.filterMap fun transition => transition.event.clock?

/-- The peer, whitelisted, was issued this nonce at this time. -/
structure Issues (peer : PeerId) (time : UInt64) (nonce : Nonce)
    (transition : AuthTransition PeerId) : Prop where
  called : transition.event = .issueAt peer time nonce
  returned : transition.actions = [.issued (some (.challenge nonce time))]
  whitelisted : ∃ roles, transition.before.whitelist.roles peer = some roles

/-- An operation on the peer, other than an `issue_at` that issued nothing. -/
def Touches (peer : PeerId) (transition : AuthTransition PeerId) : Prop :=
  (∃ time nonce, Issues peer time nonce transition) ∨
    (∃ signature timestamp now,
      transition.event = .verifyAt peer signature timestamp now) ∨
    transition.event = .endSession peer ∨ transition.event = .revoke peer

/-- A pending challenge was issued, and its peer left alone since. -/
def PendingIssued (history : List (AuthTransition PeerId))
    (guard : GuardAuthenticator PeerId) : Prop :=
  ∀ peer challenge, guard.pending.lookup peer = some challenge →
    Since (Issues peer challenge.issuedAt challenge.nonce) (Touches peer) history

/-- The peer an operation is about. -/
def AuthOperation.peer? : AuthOperation PeerId → Option PeerId
  | .issueAt peer _ _ => some peer
  | .verifyAt peer _ _ _ => some peer
  | .endSession peer => some peer
  | .revoke peer => some peer
  | .editWhitelist _ => none

omit [DecidableEq PeerId] in
theorem peer_of_touches {peer : PeerId} {transition : AuthTransition PeerId}
    (touched : Touches peer transition) :
    transition.event.peer? = some peer := by
  rcases touched with ⟨time, nonce, issued⟩ |
    ⟨signature, timestamp, now, same⟩ | same | same
  · rw [issued.called]
    rfl
  · rw [same]
    rfl
  · rw [same]
    rfl
  · rw [same]
    rfl

theorem PendingIssued.step {history : List (AuthTransition PeerId)}
    {guard next : GuardAuthenticator PeerId}
    {operation : AuthOperation PeerId} {results : List AuthResult}
    (before : PendingIssued history guard)
    (taken : GuardAuthenticator.perform guard operation =
      some (next, results)) :
    PendingIssued (history ++ [⟨guard, operation, results, next⟩]) next := by
  intro peer challenge pending
  -- A peer the operation is not about keeps its challenge and its past.
  have kept : operation.peer? ≠ some peer →
      guard.pending.lookup peer = some challenge →
        Since (Issues peer challenge.issuedAt challenge.nonce) (Touches peer)
          (history ++ [⟨guard, operation, results, next⟩]) := by
    intro other same
    apply (before peer challenge same).kept
    intro touched
    exact other (peer_of_touches touched)
  have erased : ∀ {gone : PeerId},
      operation.peer? = some gone →
        (guard.pending.erase gone).lookup peer = some challenge →
          Since (Issues peer challenge.issuedAt challenge.nonce)
            (Touches peer) (history ++ [⟨guard, operation, results, next⟩]) := by
    intro gone about present
    rw [lookup_erase_eq_ite] at present
    rcases Option.ite_none_left_eq_some.mp present with ⟨different, same⟩
    apply kept _ same
    rw [about]
    intro equal
    exact different (Option.some.inj equal).symm
  cases operation with
  | issueAt target now nonce =>
      cases listed : guard.whitelist.roles target with
      | none =>
          have result : GuardAuthenticator.perform guard
              (.issueAt target now nonce) = some (guard, [.issued none]) := by
            simp only [GuardAuthenticator.perform,
              GuardAuthenticator.issueAt_of_unlisted listed]
          rw [result] at taken
          cases taken
          apply (before peer challenge pending).kept
          rintro (⟨time, issued, touched⟩ | ⟨_, _, _, same⟩ | same | same)
          · cases touched.returned
          · cases same
          · cases same
          · cases same
      | some roles =>
          have result : GuardAuthenticator.perform guard
              (.issueAt target now nonce) =
                some ({ guard with
                    pending := guard.pending.insert target ⟨nonce, now⟩ },
                  [.issued (some (.challenge nonce now))]) := by
            simp only [GuardAuthenticator.perform,
              GuardAuthenticator.issueAt_of_listed listed]
          rw [result] at taken
          cases taken
          rw [lookup_insert_eq_ite] at pending
          split at pending
          · rename_i same
            cases pending
            subst same
            exact Since.now ⟨rfl, rfl, roles, listed⟩
          · rename_i different
            apply kept _ pending
            intro equal
            exact different (Option.some.inj equal).symm
  | verifyAt target signature timestamp now =>
      have same : next =
          (guard.verifyAt target signature timestamp now).1 :=
        (congrArg Prod.fst (Option.some.inj taken)).symm
      rw [same, GuardAuthenticator.verifyAt_pending,
        ← lookup_erase_eq_ite] at pending
      exact erased rfl pending
  | endSession target =>
      cases taken
      exact erased rfl pending
  | revoke target =>
      cases taken
      exact erased rfl pending
  | editWhitelist edited =>
      cases taken
      apply kept _ pending
      intro equal
      cases equal

theorem pendingIssued_of_run {start finish : GuardAuthenticator PeerId}
    {history : List (AuthTransition PeerId)}
    (nothing : ∀ peer, start.pending.lookup peer = none)
    (run : Run GuardAuthenticator.perform start history finish) :
    PendingIssued history finish := by
  induction run with
  | start =>
      intro peer challenge pending
      rw [nothing] at pending
      cases pending
  | snoc prior taken induction => exact induction.step taken

/-! ## Matching grants with issues -/

/-- A call to `verify_at` that returned a grant, and its place. -/
structure GrantIn (history : List (AuthTransition PeerId)) where
  position : Nat
  transition : AuthTransition PeerId
  peer : PeerId
  signature : List UInt8
  timestamp : UInt64
  now : UInt64
  roles : List String
  here : history[position]? = some transition
  called : transition.event = .verifyAt peer signature timestamp now
  returned : transition.actions = [.verified (.granted roles)]

/-- A call to `issue_at` that returned a challenge, and its place. -/
structure IssueIn (history : List (AuthTransition PeerId)) where
  position : Nat
  transition : AuthTransition PeerId
  peer : PeerId
  time : UInt64
  nonce : Nonce
  here : history[position]? = some transition
  issued : Issues peer time nonce transition

/-- The grant answers the challenge of this issue. -/
structure Answers {history : List (AuthTransition PeerId)}
    (grant : GrantIn history) (issue : IssueIn history) : Prop where
  samePeer : issue.peer = grant.peer
  earlier : issue.position < grant.position
  untouched : ∀ (between : Nat) (transition : AuthTransition PeerId),
    issue.position < between → between < grant.position →
      history[between]? = some transition → ¬ Touches grant.peer transition
  ordered : issue.time ≤ grant.now
  fresh : grant.now.toNat - issue.time.toNat ≤ maxClockSkewSecs
  inWindow : absDiff grant.now grant.timestamp ≤ maxClockSkewSecs
  whitelisted : grant.transition.before.whitelist.roles grant.peer =
    some grant.roles
  signed : ∃ key, publicKeyOf grant.peer = some key ∧
    PeerIdentity.verify key
      (challengePayload issue.nonce grant.timestamp).toList
        grant.signature = true

omit [DecidableEq PeerId] [PeerIdentity PeerId] in
theorem clocks_append (front back : List (AuthTransition PeerId)) :
    clocks (front ++ back) = clocks front ++ clocks back :=
  List.filterMap_append

/-- Every grant answers an issue. -/
theorem exists_answers {start finish : GuardAuthenticator PeerId}
    {history : List (AuthTransition PeerId)}
    (nothing : ∀ peer, start.pending.lookup peer = none)
    (run : Run GuardAuthenticator.perform start history finish)
    (ordered : (clocks history).Pairwise (· ≤ ·))
    (grant : GrantIn history) :
    ∃ issue : IssueIn history, Answers grant issue := by
  rcases grant with ⟨position, transition, peer, signature, timestamp, now,
    roles, here, called, returned⟩
  rcases split_at here with ⟨front, back, rfl, rfl⟩
  rcases run.transition with ⟨prior, taken, -⟩
  have outcome : (transition.before.verifyAt peer signature timestamp now).2 =
      .granted roles := by
    rw [called] at taken
    have both := congrArg Prod.snd (Option.some.inj taken)
    rw [returned] at both
    exact AuthResult.verified.inj (List.cons.inj both).1
  rcases GuardAuthenticator.verifyAt_granted_iff.mp outcome with
    ⟨challenge, pending, acceptable⟩
  rcases pendingIssued_of_run nothing prior peer challenge pending with
    ⟨earlier, issue, later, rfl, issued, untouched⟩
  refine ⟨⟨earlier.length, issue, peer, challenge.issuedAt, challenge.nonce,
    by simp, issued⟩, ?_⟩
  constructor
  · rfl
  · simp
  · intro between other after before present touched
    have inLater : other ∈ later := by
      rw [List.getElem?_append_left before,
        List.getElem?_append_right after.le] at present
      rcases Nat.exists_eq_add_of_lt after with ⟨offset, rfl⟩
      have shift : earlier.length + offset + 1 - earlier.length =
          offset + 1 := by omega
      rw [shift, List.getElem?_cons_succ] at present
      exact List.mem_of_getElem? present
    exact untouched other inLater touched
  · have issueClock : issue.event.clock? = some challenge.issuedAt := by
      rw [issued.called]
      rfl
    have grantClock : transition.event.clock? = some now := by
      rw [called]
      rfl
    rw [clocks_append, clocks_append] at ordered
    have across := (List.pairwise_append.mp ordered).2.2
    apply across
    · apply List.mem_append_right
      simp [clocks, issueClock]
    · simp [clocks, grantClock]
  · exact acceptable.fresh
  · exact acceptable.inWindow
  · exact acceptable.whitelisted
  · exact acceptable.signed

section Unique

variable {history : List (AuthTransition PeerId)}
    {left right : GrantIn history} {leftIssue rightIssue : IssueIn history}

omit [DecidableEq PeerId] in
/-- Two grants that answer the same issue are the same grant. -/
theorem Answers.unique (leftAnswers : Answers left leftIssue)
    (rightAnswers : Answers right rightIssue)
    (same : leftIssue.position = rightIssue.position) :
    left.position = right.position := by
  have sameTransition : leftIssue.transition = rightIssue.transition := by
    have both := leftIssue.here
    rw [same, rightIssue.here] at both
    exact (Option.some.inj both).symm
  have samePeer : left.peer = right.peer := by
    have called := leftIssue.issued.called
    rw [sameTransition, rightIssue.issued.called] at called
    rw [← leftAnswers.samePeer, ← rightAnswers.samePeer]
    exact (AuthOperation.issueAt.inj called).1.symm
  rcases Nat.lt_trichotomy left.position right.position with
    before | equal | after
  · refine absurd ?_ (rightAnswers.untouched left.position left.transition
      (same ▸ leftAnswers.earlier) before left.here)
    rw [← samePeer]
    exact Or.inr (Or.inl ⟨_, _, _, left.called⟩)
  · exact equal
  · refine absurd ?_ (leftAnswers.untouched right.position right.transition
      (same ▸ rightAnswers.earlier) after right.here)
    rw [samePeer]
    exact Or.inr (Or.inl ⟨_, _, _, right.called⟩)

/-! ## No signature is accepted twice -/

/-- No two calls issued the same nonce. -/
def NoncesDistinct (history : List (AuthTransition PeerId)) : Prop :=
  ∀ left right : IssueIn history, left.nonce = right.nonce →
    left.position = right.position

/-- Under these two keys, a signature verifies for at most one payload. -/
def OnePayload (left right : PeerIdentity.PublicKey PeerId) : Prop :=
  ∀ leftPayload rightPayload signature,
    PeerIdentity.verify left leftPayload signature = true →
      PeerIdentity.verify right rightPayload signature = true →
        leftPayload = rightPayload

omit [DecidableEq PeerId] in
/-- Grants of one signature answer issues of one nonce. -/
theorem Answers.same_nonce (leftAnswers : Answers left leftIssue)
    (rightAnswers : Answers right rightIssue)
    (sameSignature : left.signature = right.signature)
    (binding : ∀ leftKey rightKey, publicKeyOf left.peer = some leftKey →
      publicKeyOf right.peer = some rightKey → OnePayload leftKey rightKey) :
    leftIssue.nonce = rightIssue.nonce := by
  rcases leftAnswers.signed with ⟨leftKey, leftEmbedded, leftVerified⟩
  rcases rightAnswers.signed with ⟨rightKey, rightEmbedded, rightVerified⟩
  rw [← sameSignature] at rightVerified
  have samePayload := binding leftKey rightKey leftEmbedded rightEmbedded _ _ _
    leftVerified rightVerified
  exact challengePayload_nonce (Vector.toList_inj.mp samePayload)

end Unique

/--
Grants are matched with distinct earlier issues.  When nonces never repeat and
a signature verifies for one payload only, no signature is granted twice: to
one peer if this holds of each key, to any two peers if it holds across keys.
-/
theorem grants_answer_distinct_issues {whitelist : Whitelist PeerId}
    {finish : GuardAuthenticator PeerId}
    {history : List (AuthTransition PeerId)}
    (run : Run GuardAuthenticator.perform (GuardAuthenticator.new whitelist)
      history finish)
    (ordered : (clocks history).Pairwise (· ≤ ·)) :
    (∃ matching : GrantIn history → IssueIn history,
      (∀ grant, Answers grant (matching grant)) ∧
      ∀ left right, (matching left).position = (matching right).position →
        left.position = right.position) ∧
    (NoncesDistinct history →
      ∀ left right : GrantIn history, left.signature = right.signature →
        (∀ leftKey rightKey, publicKeyOf left.peer = some leftKey →
          publicKeyOf right.peer = some rightKey →
            OnePayload leftKey rightKey) →
          left.position = right.position) := by
  have nothing : ∀ peer, (GuardAuthenticator.new whitelist).pending.lookup
      peer = none := fun peer => rfl
  choose matching answers using exists_answers nothing run ordered
  have distinct : ∀ left right,
      (matching left).position = (matching right).position →
        left.position = right.position := by
    intro left right same
    exact (answers left).unique (answers right) same
  refine ⟨⟨matching, answers, distinct⟩, ?_⟩
  intro noRepeat left right sameSignature binding
  apply distinct
  apply noRepeat
  exact (answers left).same_nonce (answers right) sameSignature binding

section SmallHistory

/-- The one peer of the small histories. -/
def smallPeer : BytePeer := ⟨1⟩

/-- It is listed, with no roles. -/
def smallWhitelist : Whitelist BytePeer := Whitelist.new.allow smallPeer []

/-- The nonce of its challenges. -/
def smallNonce : Nonce := Vector.replicate nonceLen 7

/-- Its answer at time zero. -/
def smallAnswer : AuthOperation BytePeer :=
  .verifyAt smallPeer
    (smallPeer.sign (challengePayload smallNonce 0).toList) 0 0

omit [DecidableEq PeerId] [PeerIdentity PeerId] in
theorem clocks_eq (history : List (AuthTransition PeerId)) :
    clocks history =
      (history.map Transition.event).filterMap AuthOperation.clock? := by
  rw [List.filterMap_map]
  rfl

theorem grants_answer_distinct_issues_small :
    ∃ history finish,
      Run GuardAuthenticator.perform (GuardAuthenticator.new smallWhitelist)
        history finish ∧
      history.map Transition.event =
        [.issueAt smallPeer 0 smallNonce, smallAnswer] ∧
      (∃ grant : GrantIn history, ∃ issue, Answers grant issue) ∧
      ∀ left right : GrantIn history, left.signature = right.signature →
        left.position = right.position := by
  have computed : (execute GuardAuthenticator.perform
      (GuardAuthenticator.new smallWhitelist)
      [.issueAt smallPeer 0 smallNonce, smallAnswer]).any
      (fun result => result.1.map Transition.actions =
        [[.issued (some (.challenge smallNonce 0))],
          [.verified (.granted [])]]) = true := by
    decide +kernel
  rcases exists_run_of_any computed with ⟨history, finish, run, events, logged⟩
  replace logged := of_decide_eq_true logged
  have ordered : (clocks history).Pairwise (· ≤ ·) := by
    rw [clocks_eq, events]
    decide
  rcases grants_answer_distinct_issues run ordered with
    ⟨⟨matching, answers, -⟩, unrepeated⟩
  rcases List.map_eq_cons_iff.mp events with ⟨issue, rest, rfl, asked, single⟩
  rcases List.map_eq_singleton_iff.mp single with ⟨grant, rfl, answered⟩
  simp only [List.map_cons, List.map_nil, List.cons.injEq, and_true] at logged
  refine ⟨_, finish, run, events, ?_, ?_⟩
  · let granted : GrantIn [issue, grant] :=
      ⟨1, grant, smallPeer, _, 0, 0, [], rfl, answered, logged.2⟩
    exact ⟨granted, matching granted, answers granted⟩
  · intro left right same
    refine unrepeated ?_ left right same ?_
    · -- The second call is no issue, so both issues are the first call.
      have first : ∀ found : IssueIn [issue, grant], found.position = 0 := by
        rintro ⟨position, transition, peer, time, nonce, here, issued⟩
        rcases position with _ | _ | position
        · rfl
        · cases here
          have called := issued.called
          rw [answered] at called
          cases called
        · cases here
      intro leftIssue rightIssue sameNonce
      rw [first leftIssue, first rightIssue]
    · intro leftKey rightKey leftEmbedded rightEmbedded leftPayload
        rightPayload signature leftVerified rightVerified
      have leftSigned : signature = leftKey :: leftPayload :=
        of_decide_eq_true leftVerified
      have rightSigned : signature = rightKey :: rightPayload :=
        of_decide_eq_true rightVerified
      exact (List.cons.inj (leftSigned.symm.trans rightSigned)).2

/-- The whitelist loses the peer, refuses it a challenge, and lists it again. -/
def refusedBetween : List (AuthOperation BytePeer) :=
  [.issueAt smallPeer 0 smallNonce, .editWhitelist Whitelist.new,
    .issueAt smallPeer 0 smallNonce, .editWhitelist smallWhitelist,
    smallAnswer]

/-- A grant may be separated from its issue by a call that issued nothing. -/
theorem issue_between_issue_and_grant :
    ∃ history finish,
      Run GuardAuthenticator.perform (GuardAuthenticator.new smallWhitelist)
        history finish ∧
      (clocks history).Pairwise (· ≤ ·) ∧
      ∃ grant : GrantIn history, ∀ issue : IssueIn history,
        issue.position < grant.position →
          ∃ (between : Nat) (transition : AuthTransition BytePeer),
            issue.position < between ∧ between < grant.position ∧
              history[between]? = some transition ∧
                ∃ now nonce,
                  transition.event = .issueAt grant.peer now nonce := by
  have computed : (execute GuardAuthenticator.perform
      (GuardAuthenticator.new smallWhitelist) refusedBetween).any
      (fun result => result.1.map Transition.actions =
        [[.issued (some (.challenge smallNonce 0))], [.edited],
          [.issued none], [.edited], [.verified (.granted [])]]) = true := by
    decide +kernel
  rcases exists_run_of_any computed with ⟨history, finish, run, events, logged⟩
  replace logged := of_decide_eq_true logged
  have ordered : (clocks history).Pairwise (· ≤ ·) := by
    rw [clocks_eq, events]
    decide
  rcases List.map_eq_cons_iff.mp logged with ⟨first, rest, rfl, -, logged⟩
  rcases List.map_eq_cons_iff.mp logged with ⟨second, rest, rfl, edit, logged⟩
  rcases List.map_eq_cons_iff.mp logged with ⟨third, rest, rfl, none, logged⟩
  rcases List.map_eq_cons_iff.mp logged with ⟨fourth, rest, rfl, back, logged⟩
  rcases List.map_eq_singleton_iff.mp logged with ⟨fifth, rfl, granted⟩
  simp only [refusedBetween, List.map_cons, List.map_nil, List.cons.injEq,
    and_true] at events
  refine ⟨_, finish, run, ordered, ⟨4, fifth, smallPeer, _, 0, 0, [], rfl,
    events.2.2.2.2, granted⟩, ?_⟩
  rintro ⟨position, transition, peer, time, nonce, here, issued⟩ before
  have returned := issued.returned
  dsimp only at before
  rcases position with _ | _ | _ | _ | position
  · refine ⟨2, third, Nat.zero_lt_two, ?_, rfl, 0, smallNonce, events.2.2.1⟩
    show 2 < 4
    decide
  · cases here
    rw [edit] at returned
    cases returned
  · cases here
    rw [none] at returned
    cases returned
  · cases here
    rw [back] at returned
    cases returned
  · omega

end SmallHistory

end NuxAuth.Core
