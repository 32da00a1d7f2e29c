import Mathlib.Data.Finset.Dedup
import NuxAuth.Lib.LastWrite
import NuxAuth.Gateway.Configs

/-!
# The roles a list of configurations leaves behind

`Whitelist::allow` replaces what a peer had, and `roles_for_config` emits the
Guard before the peers it allows.  Whether the configurations are folded or
pushed, a peer ends up with what the last configuration that names it says:
the roles of a client if that configuration lists it under `allow`, and only
otherwise those of a Guard.
-/

namespace NuxAuth.Gateway

open NuxAuth.Core
open NuxAuth.Lib.LastWrite

variable {PeerId : Type} [PeerIdText PeerId]

/-! ## How a configuration names a peer -/

/-- The `uuid` of the configuration is this peer. -/
def Owns (config : ConfigNodeGuard) (peer : PeerId) : Prop :=
  PeerIdText.fromStr config.uuid = some peer

/-- The peer is listed under `allow`. -/
def Lists (config : ConfigNodeGuard) (peer : PeerId) : Prop :=
  ∃ entry : Allow, entry ∈ config.allow ∧
    PeerIdText.fromStr entry.peer = some peer

/-- The configuration is that of the peer, or allows it. -/
def Names (config : ConfigNodeGuard) (peer : PeerId) : Prop :=
  Owns config peer ∨ Lists config peer

/-- The last configuration of the list that names the peer. -/
def LastNaming (configs : List ConfigNodeGuard) (peer : PeerId)
    (config : ConfigNodeGuard) : Prop :=
  ∃ front back, configs = front ++ config :: back ∧ Names config peer ∧
    ∀ later ∈ back, ¬ Names later peer

theorem LastNaming.named {configs : List ConfigNodeGuard} {peer : PeerId}
    {config : ConfigNodeGuard} (last : LastNaming configs peer config) :
    Names config peer := by
  rcases last with ⟨-, -, -, named, -⟩
  exact named

theorem LastNaming.mem {configs : List ConfigNodeGuard} {peer : PeerId}
    {config : ConfigNodeGuard} (last : LastNaming configs peer config) :
    config ∈ configs := by
  rcases last with ⟨front, back, rfl, -⟩
  simp

variable [DecidableEq PeerId]

instance (config : ConfigNodeGuard) (peer : PeerId) :
    Decidable (Owns config peer) :=
  inferInstanceAs (Decidable (_ = _))

instance (config : ConfigNodeGuard) (peer : PeerId) :
    Decidable (Lists config peer) :=
  inferInstanceAs (Decidable (∃ entry ∈ config.allow, _))

/-- The roles a configuration leaves a peer with; an entry of `allow` wins. -/
def assigned (config : ConfigNodeGuard) (peer : PeerId) :
    Option (List String) :=
  if Lists config peer then
    some [roleClient]
  else if Owns config peer then
    some [roleGuard, roleClient]
  else
    none

theorem assigned_of_lists {config : ConfigNodeGuard} {peer : PeerId}
    (listed : Lists config peer) :
    assigned config peer = some [roleClient] :=
  if_pos listed

theorem assigned_of_not_lists {config : ConfigNodeGuard} {peer : PeerId}
    (named : Names config peer) (unlisted : ¬ Lists config peer) :
    assigned config peer = some [roleGuard, roleClient] := by
  rw [assigned, if_neg unlisted, if_pos (named.resolve_right unlisted)]

theorem assigned_eq_none_iff {config : ConfigNodeGuard} {peer : PeerId} :
    assigned config peer = none ↔ ¬ Names config peer := by
  constructor
  · intro unassigned named
    by_cases listed : Lists config peer
    · rw [assigned_of_lists listed] at unassigned
      cases unassigned
    · rw [assigned_of_not_lists named listed] at unassigned
      cases unassigned
  · intro unnamed
    rw [Names, not_or] at unnamed
    rw [assigned, if_neg unnamed.2, if_neg unnamed.1]

/-- The two role lists a configuration can assign differ as sets. -/
theorem assigned_roleSet_eq_iff {left right : ConfigNodeGuard}
    {peer : PeerId} (leftNames : Names left peer)
    (rightNames : Names right peer) :
    (assigned left peer).map List.toFinset =
        (assigned right peer).map List.toFinset ↔
      (Lists left peer ↔ Lists right peer) := by
  have different : some [roleClient].toFinset ≠
      some [roleGuard, roleClient].toFinset := by
    decide
  by_cases leftLists : Lists left peer
  · rw [assigned_of_lists leftLists]
    by_cases rightLists : Lists right peer
    · simp [assigned_of_lists rightLists, leftLists, rightLists]
    · rw [assigned_of_not_lists rightNames rightLists]
      exact iff_of_false different fun same => rightLists (same.mp leftLists)
  · rw [assigned_of_not_lists leftNames leftLists]
    by_cases rightLists : Lists right peer
    · rw [assigned_of_lists rightLists]
      exact iff_of_false different.symm
        fun same => leftLists (same.mpr rightLists)
    · simp [assigned_of_not_lists rightNames rightLists, leftLists,
        rightLists]

/-! ## Replaying entries -/

/-- What one entry says about a peer. -/
def entryFor (peer : PeerId) (entry : PeerId × List String) :
    Option (List String) :=
  if entry.1 = peer then some entry.2 else none

/-- Replaying the entries of `allow` leaves every listed peer a client. -/
theorem lastSome_clients (entries : List Allow) (peer : PeerId) :
    lastSome (entryFor peer) (entries.filterMap fun entry =>
        (PeerIdText.fromStr entry.peer).map
          fun listed : PeerId => (listed, [roleClient])) =
      if ∃ entry ∈ entries, PeerIdText.fromStr entry.peer = some peer then
        some [roleClient]
      else
        none := by
  induction entries with
  | nil => simp
  | cons entry rest induction =>
      cases parsed : (PeerIdText.fromStr entry.peer : Option PeerId) with
      | none =>
          rw [List.filterMap_cons_none (by simp [parsed]), induction]
          simp [parsed]
      | some named =>
          rw [List.filterMap_cons_some (by simp [parsed]; rfl), lastSome_cons,
            induction]
          by_cases later : ∃ entry ∈ rest,
              PeerIdText.fromStr entry.peer = some peer
          · simp [later]
          · by_cases same : named = peer
            · simp [later, same, parsed, entryFor]
            · simp [later, same, parsed, entryFor]

theorem lastSome_rolesForConfig (config : ConfigNodeGuard) (peer : PeerId) :
    lastSome (entryFor peer) (rolesForConfig config) =
      assigned config peer := by
  rw [rolesForConfig, lastSome_append, lastSome_clients, assigned]
  by_cases listed : Lists config peer
  · rw [if_pos listed]
    exact congrArg (Option.or · _) (if_pos listed)
  · rw [if_neg listed]
    refine (congrArg (Option.or · _) (if_neg listed)).trans ?_
    rw [Option.none_or]
    cases parsed : (PeerIdText.fromStr config.uuid : Option PeerId) with
    | none => simp [Owns, parsed]
    | some owner => simp [Owns, parsed, entryFor]

/-- Replaying configurations: the last one that names the peer decides. -/
theorem lastSome_configs (configs : List ConfigNodeGuard) (peer : PeerId) :
    lastSome (entryFor peer) (configs.flatMap rolesForConfig) =
      lastSome (assigned · peer) configs := by
  rw [lastSome_flatMap]
  apply lastSome_congr
  intro config _
  exact lastSome_rolesForConfig config peer

/-- What a peer is left with comes from the last configuration naming it. -/
theorem lastSome_assigned_eq_some_iff {configs : List ConfigNodeGuard}
    {peer : PeerId} {roles : List String} :
    lastSome (assigned · peer) configs = some roles ↔
      ∃ config, LastNaming configs peer config ∧
        assigned config peer = some roles := by
  rw [lastSome_eq_some_iff]
  constructor
  · rintro ⟨front, config, back, whole, decided, silent⟩
    refine ⟨config, ⟨front, back, whole, ?_, ?_⟩, decided⟩
    · by_contra unnamed
      rw [assigned_eq_none_iff.mpr unnamed] at decided
      cases decided
    · intro later member
      exact assigned_eq_none_iff.mp (silent later member)
  · rintro ⟨config, ⟨front, back, whole, -, silent⟩, decided⟩
    refine ⟨front, config, back, whole, decided, ?_⟩
    intro later member
    exact assigned_eq_none_iff.mpr (silent later member)

theorem LastNaming.lastSome_assigned {configs : List ConfigNodeGuard}
    {peer : PeerId} {config : ConfigNodeGuard}
    (last : LastNaming configs peer config) :
    lastSome (assigned · peer) configs = assigned config peer := by
  cases decided : assigned config peer with
  | none => exact absurd last.named (assigned_eq_none_iff.mp decided)
  | some roles => exact lastSome_assigned_eq_some_iff.mpr ⟨config, last, decided⟩

/-- A named peer has a last configuration naming it. -/
theorem exists_lastNaming {configs : List ConfigNodeGuard} {peer : PeerId}
    {config : ConfigNodeGuard} (member : config ∈ configs)
    (named : Names config peer) :
    ∃ last, LastNaming configs peer last := by
  cases found : lastSome (assigned · peer) configs with
  | none =>
      have silent := (lastSome_eq_none_iff _ _).mp found config member
      exact absurd named (assigned_eq_none_iff.mp silent)
  | some roles =>
      rcases lastSome_assigned_eq_some_iff.mp found with ⟨last, naming, -⟩
      exact ⟨last, naming⟩

/-! ## The whitelist they leave -/

variable [PeerIdentity PeerId]

/-- The set of roles of a peer, if it is listed at all. -/
def roleSet (list : Whitelist PeerId) (peer : PeerId) :
    Option (Finset String) :=
  (list.roles peer).map List.toFinset

omit [PeerIdText PeerId] in
theorem roles_allowAll (list : Whitelist PeerId)
    (entries : List (PeerId × List String)) (peer : PeerId) :
    (allowAll list entries).roles peer =
      (lastSome (entryFor peer) entries).or (list.roles peer) := by
  induction entries generalizing list with
  | nil => rfl
  | cons entry rest induction =>
      rw [lastSome_cons]
      refine (induction (list.allow entry.1 entry.2)).trans ?_
      rw [Whitelist.roles_allow, Function.update_apply, Option.or_assoc,
        entryFor]
      by_cases same : entry.1 = peer
      · rw [if_pos same.symm, if_pos same, Option.some_or]
      · rw [if_neg (Ne.symm same), if_neg same, Option.none_or]

/-! ## Folding the rows of the table -/

/-- No column makes `From<Row>` panic. -/
def Readable (serde : SerdeJson) (rows : List ConfigNodeGuardRow) : Prop :=
  ∀ row ∈ rows, (ConfigNodeGuard.ofRow serde row).isSome

/-- The configurations stored in the rows. -/
def configsOf (serde : SerdeJson) (rows : List ConfigNodeGuardRow) :
    List ConfigNodeGuard :=
  rows.filterMap (ConfigNodeGuard.ofRow serde)

omit [PeerIdentity PeerId] in
theorem foldRows_eq_some_iff {serde : SerdeJson}
    {rows : List ConfigNodeGuardRow} {list folded : Whitelist PeerId} :
    rows.foldlM (fun list row =>
        (ConfigNodeGuard.ofRow serde row).map fun config =>
          allowAll list (rolesForConfig config)) list = some folded ↔
      Readable serde rows ∧
        folded = allowAll list ((configsOf serde rows).flatMap
          rolesForConfig) := by
  induction rows generalizing list with
  | nil =>
      have readable : Readable serde [] := by simp [Readable]
      constructor
      · intro computed
        cases computed
        exact ⟨readable, rfl⟩
      · rintro ⟨-, rfl⟩
        rfl
  | cons row rest induction =>
      rw [List.foldlM_cons]
      cases read : ConfigNodeGuard.ofRow serde row with
      | none => simp [Readable, read]
      | some config =>
          refine induction.trans ?_
          simp [Readable, configsOf, read, allowAll]

omit [PeerIdentity PeerId] in
theorem rebuildWhitelist_eq_some_iff {serde : SerdeJson}
    {rows : List ConfigNodeGuardRow} {list : Whitelist PeerId} :
    rebuildWhitelist serde rows = some list ↔
      Readable serde rows ∧
        list = allowAll Whitelist.new ((configsOf serde rows).flatMap
          rolesForConfig) :=
  foldRows_eq_some_iff

/-- A rebuilt whitelist holds what the last row naming a peer says. -/
theorem roles_rebuildWhitelist {serde : SerdeJson}
    {rows : List ConfigNodeGuardRow} {list : Whitelist PeerId}
    (rebuilt : rebuildWhitelist serde rows = some list) (peer : PeerId) :
    list.roles peer = lastSome (assigned · peer) (configsOf serde rows) := by
  rcases rebuildWhitelist_eq_some_iff.mp rebuilt with ⟨-, rfl⟩
  rw [roles_allowAll, lastSome_configs, Whitelist.roles_new, Option.or_none]

/-! ## Reading back what was written -/

theorem ofRow_intoRow {serde : SerdeJson} {input : ConfigNodeGuardInput}
    (roundTrips : serde.RoundTrips input) (uuid updatedAt written : String) :
    ConfigNodeGuard.ofRow serde
        (ConfigNodeGuard.intoRow serde
          ⟨uuid, input.rateLimit, input.allow, input.checkSum, written⟩
          updatedAt) =
      some ⟨uuid, input.rateLimit, input.allow, input.checkSum,
        updatedAt⟩ := by
  simp [ConfigNodeGuard.ofRow, ConfigNodeGuard.intoRow, roundTrips.rateLimit,
    roundTrips.allow, roundTrips.checkSum]

end NuxAuth.Gateway
