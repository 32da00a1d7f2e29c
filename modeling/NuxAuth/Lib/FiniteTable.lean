import Mathlib.Data.Finset.Card
import Mathlib.Data.Finset.Dedup
import Mathlib.Data.List.AList

/-!
# Counting the entries of a finite table

A hash map is modelled by an association list without duplicate keys.  The
lookup laws are those of `AList`; this module adds the arithmetic of counting:
how the number of entries passing a test changes when one entry is inserted,
overwritten or removed.
-/

namespace NuxAuth.Lib.FiniteTable

universe u v

/-- A finite map from keys to values. -/
abbrev Table (Key : Type u) (Value : Type v) := AList (fun _ : Key => Value)

variable {Key : Type u} {Value : Type v}

/-- The number of entries that pass a test. -/
def tally (test : Key → Value → Bool) (table : Table Key Value) : Nat :=
  table.entries.countP fun entry => test entry.1 entry.2

variable [DecidableEq Key]

theorem lookup_insert_eq_ite (table : Table Key Value) (key other : Key)
    (value : Value) :
    (table.insert key value).lookup other =
      if other = key then some value else table.lookup other := by
  split
  · rename_i same
    rw [same, AList.lookup_insert]
  · rename_i different
    rw [AList.lookup_insert_ne different]

theorem lookup_erase_eq_ite (table : Table Key Value) (key other : Key) :
    (table.erase key).lookup other =
      if other = key then none else table.lookup other := by
  split
  · rename_i same
    rw [same, AList.lookup_erase]
  · rename_i different
    rw [AList.lookup_erase_ne different]

/-- An entry of the list is exactly a successful lookup. -/
theorem mem_entries_iff (table : Table Key Value) (key : Key) (value : Value) :
    (⟨key, value⟩ : (_ : Key) × Value) ∈ table.entries ↔
      table.lookup key = some value := by
  rw [← Option.mem_def, AList.mem_lookup_iff]

/-- Removing an entry takes away exactly its own contribution. -/
theorem tally_erase_add (test : Key → Value → Bool) (table : Table Key Value)
    {key : Key} {value : Value} (present : table.lookup key = some value) :
    tally test (table.erase key) + (if test key value then 1 else 0) =
      tally test table := by
  have member : key ∈ table.entries.keys :=
    List.dlookup_isSome.mp (Option.isSome_iff_exists.mpr ⟨value, present⟩)
  obtain ⟨found, front, back, fresh, whole, erased⟩ :=
    List.exists_of_kerase member
  have same : found = value := by
    have lookup : table.entries.dlookup key = some found := by
      rw [whole, List.dlookup_append, List.dlookup_eq_none.mpr fresh]
      simp
    have both : some found = some value := lookup.symm.trans present
    exact Option.some.inj both
  subst same
  change (table.entries.kerase key).countP _ + _ = table.entries.countP _
  rw [erased, whole]
  simp only [List.countP_append, List.countP_cons]
  omega

/-- A new entry adds exactly its own contribution. -/
theorem tally_insert_new (test : Key → Value → Bool) (table : Table Key Value)
    {key : Key} {value : Value} (absent : table.lookup key = none) :
    tally test (table.insert key value) =
      tally test table + (if test key value then 1 else 0) := by
  rw [tally, AList.entries_insert_of_notMem (AList.lookup_eq_none.mp absent),
    List.countP_cons]
  rfl

/-- Overwriting an entry exchanges the old contribution for the new one. -/
theorem tally_insert_over (test : Key → Value → Bool)
    (table : Table Key Value) {key : Key} {old new : Value}
    (present : table.lookup key = some old) :
    tally test (table.insert key new) + (if test key old then 1 else 0) =
      tally test table + (if test key new then 1 else 0) := by
  have erased := tally_erase_add test table present
  have inserted : tally test (table.insert key new) =
      tally test (table.erase key) + (if test key new then 1 else 0) := by
    rw [tally, AList.entries_insert, List.countP_cons]
    rfl
  omega

/-- Overwriting with a value that tests the same changes no count. -/
theorem tally_insert_same (test : Key → Value → Bool)
    (table : Table Key Value) {key : Key} {old new : Value}
    (present : table.lookup key = some old)
    (same : test key new = test key old) :
    tally test (table.insert key new) = tally test table := by
  have exchanged : tally test (table.insert key new) +
      (if test key old then 1 else 0) =
        tally test table + (if test key new then 1 else 0) :=
    tally_insert_over test table present
  rw [same] at exchanged
  omega

/-- Nothing is counted exactly when no entry passes the test. -/
theorem tally_eq_zero_iff (test : Key → Value → Bool)
    (table : Table Key Value) :
    tally test table = 0 ↔
      ∀ key value, table.lookup key = some value → test key value = false := by
  rw [tally, List.countP_eq_zero]
  constructor
  · intro none key value present
    simpa using none _ ((mem_entries_iff table key value).mpr present)
  · rintro none ⟨key, value⟩ member
    simpa using none key value ((mem_entries_iff table key value).mp member)

/-! ## The number of entries -/

/-- The number of keys. -/
def len {Key : Type u} {Value : Type v} (table : Table Key Value) : Nat :=
  table.entries.length

omit [DecidableEq Key] in
theorem len_eq_tally (table : Table Key Value) :
    len table = tally (fun _ _ => true) table := by
  simp [len, tally]

omit [DecidableEq Key] in
theorem tally_le_len (test : Key → Value → Bool) (table : Table Key Value) :
    tally test table ≤ len table :=
  List.countP_le_length

theorem len_insert_new (table : Table Key Value) {key : Key} {value : Value}
    (absent : table.lookup key = none) :
    len (table.insert key value) = len table + 1 := by
  rw [len_eq_tally, len_eq_tally, tally_insert_new _ table absent]
  rfl

theorem len_insert_over (table : Table Key Value) {key : Key}
    {old new : Value} (present : table.lookup key = some old) :
    len (table.insert key new) = len table := by
  rw [len_eq_tally, len_eq_tally]
  exact tally_insert_same _ table present rfl

theorem len_erase_add (table : Table Key Value) {key : Key} {value : Value}
    (present : table.lookup key = some value) :
    len (table.erase key) + 1 = len table := by
  rw [len_eq_tally, len_eq_tally]
  exact tally_erase_add (fun _ _ => true) table present

theorem card_keys (table : Table Key Value) :
    table.keys.toFinset.card = len table := by
  have counted : table.keys.toFinset.card = table.keys.length :=
    List.toFinset_card_of_nodup (AList.keys_nodup table)
  rw [counted]
  simp [AList.keys, List.keys, len]

theorem mem_toFinset_keys_iff {table : Table Key Value} {key : Key} :
    key ∈ table.keys.toFinset ↔ table.lookup key ≠ none := by
  rw [List.mem_toFinset, ← AList.mem_keys, ← AList.lookup_isSome,
    ← Option.isSome_iff_ne_none]

/-! ## Changing or dropping every entry -/

/-- One entry under `keep`: its new value, or nothing. -/
def retainEntry (keep : Key → Value → Option Value)
    (entry : (_ : Key) × Value) : Option ((_ : Key) × Value) :=
  (keep entry.1 entry.2).map fun value => ⟨entry.1, value⟩

omit [DecidableEq Key] in
private theorem keys_filterMap_sublist (keep : Key → Value → Option Value)
    (entries : List ((_ : Key) × Value)) :
    (entries.filterMap (retainEntry keep)).keys.Sublist entries.keys := by
  induction entries with
  | nil => exact List.Sublist.refl _
  | cons entry rest induction =>
      cases kept : keep entry.1 entry.2 with
      | none =>
          rw [List.filterMap_cons_none (by rw [retainEntry, kept]; rfl)]
          exact induction.cons _
      | some value =>
          rw [List.filterMap_cons_some (by rw [retainEntry, kept]; rfl)]
          exact induction.cons_cons _

/-- `HashMap::retain`: every value is changed in place, or its entry dropped. -/
def retain (keep : Key → Value → Option Value) (table : Table Key Value) :
    Table Key Value where
  entries := table.entries.filterMap (retainEntry keep)
  nodupKeys := (keys_filterMap_sublist keep table.entries).nodup table.nodupKeys

theorem lookup_retain (keep : Key → Value → Option Value)
    (table : Table Key Value) (key : Key) :
    (retain keep table).lookup key = (table.lookup key).bind (keep key) := by
  apply Option.ext
  intro value
  rw [← mem_entries_iff, Option.bind_eq_some_iff, retain, List.mem_filterMap]
  constructor
  · rintro ⟨⟨stored, old⟩, member, same⟩
    rcases Option.map_eq_some_iff.mp same with ⟨new, kept, equal⟩
    cases equal
    exact ⟨old, (mem_entries_iff table stored old).mp member, kept⟩
  · rintro ⟨old, present, kept⟩
    refine ⟨⟨key, old⟩, (mem_entries_iff table key old).mpr present, ?_⟩
    rw [retainEntry, kept]
    rfl

end NuxAuth.Lib.FiniteTable
