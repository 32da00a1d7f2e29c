import Mathlib.Data.Set.Card
import NuxAuth.Lib.KeyedList
import NuxAuth.Lib.RecordedRun
import NuxAuth.Core.Identity

/-!
# The whitelist

`Whitelist` is private outside its own operations, which never create a second
entry for a peer; the absence of duplicates is therefore part of the type.
`allow` overwrites the first entry equal to the peer, `revoke` filters all of
them, and `roles` scans every entry and remembers the last one whose bytes
match.

Read through `roles`, the three operations are lookup, update and removal in a
finite map from peers to role lists.
-/

namespace NuxAuth.Core

open NuxAuth.Lib.KeyedList NuxAuth.Lib.RecordedRun

/-- The peers admitted by a Guard, with their roles. -/
structure Whitelist (PeerId : Type) where
  entries : List (PeerId × List String)
  distinct : DistinctKeys Prod.fst entries

namespace Whitelist

variable {PeerId : Type}

@[ext]
theorem ext {left right : Whitelist PeerId}
    (equal : left.entries = right.entries) :
    left = right := by
  cases left
  cases right
  cases equal
  rfl

/-- The empty list. -/
def new : Whitelist PeerId where
  entries := []
  distinct := DistinctKeys.nil Prod.fst

/-- The number of listed peers. -/
def len (list : Whitelist PeerId) : Nat :=
  list.entries.length

section Updates

variable [DecidableEq PeerId]

/-- The roles of a listed peer are replaced. -/
def allow (list : Whitelist PeerId) (peer : PeerId) (roles : List String) :
    Whitelist PeerId where
  entries := upsertBy Prod.fst (peer, roles) list.entries
  distinct := list.distinct.upsertBy (peer, roles)

/-- The peer is taken off the list. -/
def revoke (list : Whitelist PeerId) (peer : PeerId) : Whitelist PeerId where
  entries := list.entries.filter fun entry => entry.1 ≠ peer
  distinct := list.distinct.filter _

end Updates

/-- No early exit: the last matching position is remembered. -/
def roles [PeerIdentity PeerId] (list : Whitelist PeerId) (peer : PeerId) :
    Option (List String) :=
  let needle := PeerIdentity.toBytes peer
  let found := lastIndex
    (fun candidate => PeerIdentity.toBytes candidate.1 = needle) list.entries
  (found.bind fun index => list.entries[index]?).map Prod.snd

variable [PeerIdentity PeerId]

@[simp]
theorem roles_new (peer : PeerId) :
    (new : Whitelist PeerId).roles peer = none := by
  rfl

/-- `roles` returns exactly the roles of the peer's entry. -/
theorem roles_eq_some_iff (list : Whitelist PeerId) (peer : PeerId)
    (granted : List String) :
    list.roles peer = some granted ↔ (peer, granted) ∈ list.entries := by
  have sameKey : ∀ candidate : PeerId × List String,
      decide (PeerIdentity.toBytes candidate.1 = PeerIdentity.toBytes peer) =
        true ↔ candidate.1 = peer := by
    intro candidate
    rw [decide_eq_true_iff]
    exact PeerIdentity.toBytes_injective.eq_iff
  have unique : ∀ left ∈ list.entries, ∀ right ∈ list.entries,
      decide (PeerIdentity.toBytes left.1 = PeerIdentity.toBytes peer) = true →
        decide (PeerIdentity.toBytes right.1 = PeerIdentity.toBytes peer) =
          true → left = right := by
    intro left leftMember right rightMember leftSame rightSame
    apply list.distinct.eq_of_mem leftMember rightMember
    exact ((sameKey left).mp leftSame).trans ((sameKey right).mp rightSame).symm
  rw [roles, Option.map_eq_some_iff]
  constructor
  · rintro ⟨⟨candidate, stored⟩, found, rfl⟩
    rcases (getElem?_lastIndex_eq_some_iff unique).mp found with
      ⟨member, matched⟩
    have same : candidate = peer := (sameKey (candidate, stored)).mp matched
    exact same ▸ member
  · intro member
    refine ⟨(peer, granted), ?_, rfl⟩
    exact (getElem?_lastIndex_eq_some_iff unique).mpr
      ⟨member, (sameKey (peer, granted)).mpr rfl⟩

variable [DecidableEq PeerId]

/-- `allow` is the update of a finite map. -/
@[simp]
theorem roles_allow (list : Whitelist PeerId) (peer : PeerId)
    (granted : List String) :
    (list.allow peer granted).roles =
      Function.update list.roles peer (some granted) := by
  funext other
  apply Option.ext
  intro result
  rw [roles_eq_some_iff, allow, list.distinct.mem_upsertBy_iff,
    Function.update_apply]
  split
  · rename_i same
    subst same
    simp [eq_comm]
  · rename_i different
    simp [different, roles_eq_some_iff]

/-- `revoke` is the removal of a key from a finite map. -/
@[simp]
theorem roles_revoke (list : Whitelist PeerId) (peer : PeerId) :
    (list.revoke peer).roles = Function.update list.roles peer none := by
  funext other
  apply Option.ext
  intro result
  rw [roles_eq_some_iff, revoke, Function.update_apply]
  split
  · rename_i same
    subst same
    simp
  · rename_i different
    simp [different, roles_eq_some_iff]

end Whitelist

/-! ## Any sequence of operations -/

/-- The operations that change a list. -/
inductive WhitelistOperation (PeerId : Type) where
  | allow (peer : PeerId) (roles : List String)
  | revoke (peer : PeerId)
deriving DecidableEq

/-- The peer that the operation is about. -/
def WhitelistOperation.peer {PeerId : Type} :
    WhitelistOperation PeerId → PeerId
  | .allow peer _ => peer
  | .revoke peer => peer

namespace Whitelist

variable {PeerId : Type} [DecidableEq PeerId]

/-- The operation, carried out. -/
def perform (list : Whitelist PeerId) :
    WhitelistOperation PeerId → Whitelist PeerId
  | .allow peer roles => list.allow peer roles
  | .revoke peer => list.revoke peer

/-- The list after the operations, oldest first. -/
def ofOperations (operations : List (WhitelistOperation PeerId)) :
    Whitelist PeerId :=
  operations.foldl perform new

theorem ofOperations_snoc (operations : List (WhitelistOperation PeerId))
    (last : WhitelistOperation PeerId) :
    ofOperations (operations ++ [last]) =
      (ofOperations operations).perform last := by
  rw [ofOperations, List.foldl_append]
  rfl

variable [PeerIdentity PeerId]

theorem roles_perform_of_ne {operation : WhitelistOperation PeerId}
    {peer : PeerId} (different : operation.peer ≠ peer)
    (list : Whitelist PeerId) :
    (list.perform operation).roles peer = list.roles peer := by
  cases operation with
  | allow other granted =>
      rw [perform, roles_allow]
      exact Function.update_of_ne (Ne.symm different) _ _
  | revoke other =>
      rw [perform, roles_revoke]
      exact Function.update_of_ne (Ne.symm different) _ _

/-- The last operation on the peer decides. -/
theorem roles_ofOperations_iff (operations : List (WhitelistOperation PeerId))
    (peer : PeerId) (granted : List String) :
    (ofOperations operations).roles peer = some granted ↔
      Since (· = .allow peer granted) (·.peer = peer) operations := by
  induction operations using List.reverseRecOn with
  | nil =>
      constructor
      · intro stored
        cases stored
      · rintro ⟨earlier, mark, later, whole, -⟩
        simp at whole
  | append_singleton operations last induction =>
      rw [ofOperations_snoc, since_snoc_iff]
      by_cases same : last.peer = peer
      · subst same
        cases last with
        | allow other roles =>
            simp [perform, WhitelistOperation.peer, eq_comm]
        | revoke other =>
            simp [perform, WhitelistOperation.peer]
      · rw [roles_perform_of_ne same, induction]
        constructor
        · intro before
          exact Or.inr ⟨before, same⟩
        · rintro (rfl | ⟨before, -⟩)
          · exact absurd rfl same
          · exact before

/-- The entries and the peers with roles are equally many. -/
theorem len_eq_ncard (list : Whitelist PeerId) :
    list.len = {peer | (list.roles peer).isSome}.ncard := by
  have listed : {peer | (list.roles peer).isSome} =
      ((list.entries.map Prod.fst).toFinset : Set PeerId) := by
    ext peer
    rw [Set.mem_ofPred_eq, Option.isSome_iff_exists, List.coe_toFinset,
      Set.mem_ofPred_eq, List.mem_map]
    constructor
    · rintro ⟨granted, stored⟩
      exact ⟨_, (list.roles_eq_some_iff peer granted).mp stored, rfl⟩
    · rintro ⟨⟨_, granted⟩, member, rfl⟩
      exact ⟨granted, (list.roles_eq_some_iff _ granted).mpr member⟩
  rw [listed, Set.ncard_coe_finset,
    List.toFinset_card_of_nodup list.distinct, List.length_map]
  rfl

/--
Built by any sequence of operations, the list holds no peer twice, gives every
peer the roles of the last operation on it, and counts the peers with roles.
-/
theorem whitelist_is_finite_map
    (operations : List (WhitelistOperation PeerId)) :
    let list := ofOperations operations
    (list.entries.map Prod.fst).Nodup ∧
      (∀ peer granted, list.roles peer = some granted ↔
        Since (· = .allow peer granted) (·.peer = peer) operations) ∧
      (∀ operation peer, operation.peer ≠ peer →
        (list.perform operation).roles peer = list.roles peer) ∧
      list.len = {peer | (list.roles peer).isSome}.ncard := by
  intro list
  refine ⟨list.distinct, roles_ofOperations_iff operations, ?_,
    list.len_eq_ncard⟩
  intro operation peer different
  exact roles_perform_of_ne different list

end Whitelist

end NuxAuth.Core
