import NuxAuth.Lib.FiniteTable
import NuxAuth.Core.Whitelist

/-!
# Challenge-response authentication on the Guard

The Guard keeps the whitelist, one pending challenge per peer and the open
sessions.  The clock reading and the random nonce are arguments: the model
quantifies over every value they can take.
-/

namespace NuxAuth.Core

open NuxAuth.Lib.FiniteTable

/-- Largest tolerated clock difference, also the lifetime of a challenge. -/
def maxClockSkewSecs : Nat := 5

/-- The Guard's decision on a challenge answer. -/
inductive AuthOutcome where
  | granted (roles : List String)
  | reject
deriving DecidableEq

/-- A challenge waiting for its answer. -/
structure IssuedChallenge where
  nonce : Nonce
  issuedAt : UInt64

/-- The whitelist, the pending challenges and the sessions of a Guard. -/
structure GuardAuthenticator (PeerId : Type) where
  whitelist : Whitelist PeerId
  pending : Table PeerId IssuedChallenge
  sessions : Table PeerId (List String)

namespace GuardAuthenticator

variable {PeerId : Type}

/-- Nobody has a challenge or a session yet. -/
def new (whitelist : Whitelist PeerId) : GuardAuthenticator PeerId where
  whitelist := whitelist
  pending := ∅
  sessions := ∅

/-- The peers with a session. -/
def authenticatedPeers (guard : GuardAuthenticator PeerId) : List PeerId :=
  guard.sessions.keys

variable [DecidableEq PeerId] [PeerIdentity PeerId]

/-- The nonce is the one drawn by the random generator. -/
def issueAt (guard : GuardAuthenticator PeerId) (peer : PeerId)
    (now : UInt64) (nonce : Nonce) :
    GuardAuthenticator PeerId × Option NuxResponse :=
  if (guard.whitelist.roles peer).isNone then
    (guard, none)
  else
    ({ guard with pending := guard.pending.insert peer ⟨nonce, now⟩ },
      some (.challenge nonce now))

/-- The decision on an answer, once its challenge has been taken out. -/
def checkAnswer (whitelist : Whitelist PeerId) (challenge : IssuedChallenge)
    (peer : PeerId) (signature : List UInt8) (timestamp now : UInt64) :
    AuthOutcome :=
  if now.toNat - challenge.issuedAt.toNat > maxClockSkewSecs then
    .reject
  else if absDiff now timestamp > maxClockSkewSecs then
    .reject
  else
    match whitelist.roles peer with
    | none => .reject
    | some roles =>
        match publicKeyOf peer with
        | none => .reject
        | some key =>
            let payload := challengePayload challenge.nonce timestamp
            if PeerIdentity.verify key payload.toList signature then
              .granted roles
            else
              .reject

/-- The challenge is consumed first, whatever the decision. -/
def verifyAt (guard : GuardAuthenticator PeerId) (peer : PeerId)
    (signature : List UInt8) (timestamp now : UInt64) :
    GuardAuthenticator PeerId × AuthOutcome :=
  match guard.pending.lookup peer with
  | none => (guard, .reject)
  | some challenge =>
      let consumed := { guard with pending := guard.pending.erase peer }
      match checkAnswer guard.whitelist challenge peer signature timestamp now
        with
      | .reject => (consumed, .reject)
      | .granted roles =>
          ({ consumed with sessions := guard.sessions.insert peer roles },
            .granted roles)

/-- A session is not enough: the live whitelist decides. -/
def sessionRoles (guard : GuardAuthenticator PeerId) (peer : PeerId) :
    Option (List String) :=
  if (guard.sessions.lookup peer).isNone then
    none
  else
    guard.whitelist.roles peer

omit [PeerIdentity PeerId] in
/-- Takes the peer off the list, with its challenge and its session; the flag
says whether it had a session. -/
def revoke (guard : GuardAuthenticator PeerId) (peer : PeerId) :
    GuardAuthenticator PeerId × Bool :=
  ({ whitelist := guard.whitelist.revoke peer
     pending := guard.pending.erase peer
     sessions := guard.sessions.erase peer },
    (guard.sessions.lookup peer).isSome)

omit [PeerIdentity PeerId] in
/-- The last connection of the peer is gone; its entry in the whitelist
stays. -/
def endSession (guard : GuardAuthenticator PeerId) (peer : PeerId) :
    GuardAuthenticator PeerId :=
  { guard with
    pending := guard.pending.erase peer
    sessions := guard.sessions.erase peer }

/-! ## What each operation does -/

section Spec

variable {guard : GuardAuthenticator PeerId} {peer other : PeerId}
    {challenge : IssuedChallenge} {signature : List UInt8}
    {timestamp now : UInt64} {nonce : Nonce} {roles : List String}

/-- Everything that makes an answer acceptable, given its challenge. -/
structure Acceptable (whitelist : Whitelist PeerId)
    (challenge : IssuedChallenge) (peer : PeerId) (signature : List UInt8)
    (timestamp now : UInt64) (roles : List String) : Prop where
  fresh : now.toNat - challenge.issuedAt.toNat ≤ maxClockSkewSecs
  inWindow : absDiff now timestamp ≤ maxClockSkewSecs
  whitelisted : whitelist.roles peer = some roles
  signed : ∃ key, publicKeyOf peer = some key ∧
    PeerIdentity.verify key
      (challengePayload challenge.nonce timestamp).toList signature = true

omit [DecidableEq PeerId] in
theorem checkAnswer_eq_granted_iff {whitelist : Whitelist PeerId} :
    checkAnswer whitelist challenge peer signature timestamp now =
        .granted roles ↔
      Acceptable whitelist challenge peer signature timestamp now roles := by
  constructor
  · intro granted
    unfold checkAnswer at granted
    split at granted
    · contradiction
    · rename_i fresh
      split at granted
      · contradiction
      · rename_i inWindow
        cases listed : whitelist.roles peer with
        | none =>
            rw [listed] at granted
            contradiction
        | some stored =>
            cases embedded : publicKeyOf peer with
            | none =>
                rw [listed, embedded] at granted
                contradiction
            | some key =>
                simp only [listed, embedded] at granted
                split at granted
                · rename_i signed
                  injection granted with same
                  subst same
                  exact ⟨Nat.not_lt.mp fresh, Nat.not_lt.mp inWindow, listed,
                    key, embedded, signed⟩
                · contradiction
  · rintro ⟨fresh, inWindow, listed, key, embedded, signed⟩
    simp [checkAnswer, Nat.not_lt.mpr fresh, Nat.not_lt.mpr inWindow, listed,
      embedded, signed]

/-- `verify_at` grants exactly the acceptable answers to a pending challenge. -/
theorem verifyAt_granted_iff :
    (guard.verifyAt peer signature timestamp now).2 = .granted roles ↔
      ∃ challenge, guard.pending.lookup peer = some challenge ∧
        Acceptable guard.whitelist challenge peer signature timestamp now
          roles := by
  cases found : guard.pending.lookup peer with
  | none => simp [verifyAt, found]
  | some challenge =>
      simp only [Option.some.injEq, exists_eq_left',
        ← checkAnswer_eq_granted_iff]
      cases decided : checkAnswer guard.whitelist challenge peer signature
          timestamp now with
      | reject => simp [verifyAt, found, decided]
      | granted stored => simp [verifyAt, found, decided]

/-- Without a pending challenge nothing is left to consume. -/
theorem verifyAt_of_absent (absent : guard.pending.lookup peer = none) :
    guard.verifyAt peer signature timestamp now =
      ({ guard with pending := guard.pending.erase peer }, .reject) := by
  have same : guard.pending.erase peer = guard.pending :=
    AList.ext (List.kerase_of_notMem_keys (List.dlookup_eq_none.mp absent))
  rw [same]
  simp [verifyAt, absent]

theorem verifyAt_of_pending
    (present : guard.pending.lookup peer = some challenge) :
    guard.verifyAt peer signature timestamp now =
      match checkAnswer guard.whitelist challenge peer signature timestamp now
        with
      | .reject =>
          ({ guard with pending := guard.pending.erase peer }, .reject)
      | .granted roles =>
          ({ guard with
              pending := guard.pending.erase peer
              sessions := guard.sessions.insert peer roles },
            .granted roles) := by
  simp [verifyAt, present]

/-- The challenge of the peer is gone after any verification. -/
theorem verifyAt_pending :
    (guard.verifyAt peer signature timestamp now).1.pending.lookup other =
      if other = peer then none else guard.pending.lookup other := by
  rw [← lookup_erase_eq_ite]
  unfold verifyAt
  split
  · rename_i absent
    rw [lookup_erase_eq_ite]
    split
    · rename_i same
      rw [same, absent]
    · rfl
  · split <;> rfl

theorem issueAt_of_listed (listed : guard.whitelist.roles peer = some roles) :
    guard.issueAt peer now nonce =
      ({ guard with pending := guard.pending.insert peer ⟨nonce, now⟩ },
        some (.challenge nonce now)) := by
  simp [issueAt, listed]

/-- A peer off the whitelist gets no challenge and nothing changes. -/
theorem issueAt_of_unlisted (unlisted : guard.whitelist.roles peer = none) :
    guard.issueAt peer now nonce = (guard, none) := by
  simp [issueAt, unlisted]

/-- Roles are only read for a peer with a session, off the live whitelist. -/
theorem sessionRoles_eq_some_iff :
    guard.sessionRoles peer = some roles ↔
      (∃ granted, guard.sessions.lookup peer = some granted) ∧
        guard.whitelist.roles peer = some roles := by
  cases session : guard.sessions.lookup peer with
  | none => simp [sessionRoles, session]
  | some granted => simp [sessionRoles, session]

omit [PeerIdentity PeerId] in
theorem mem_authenticatedPeers_iff :
    peer ∈ guard.authenticatedPeers ↔
      ∃ granted, guard.sessions.lookup peer = some granted := by
  rw [authenticatedPeers, ← AList.mem_keys, ← AList.lookup_isSome,
    Option.isSome_iff_exists]

end Spec

end GuardAuthenticator

end NuxAuth.Core
