import Mathlib.Data.List.Basic

/-!
# The last element that has a say

Replaying writes in order leaves, at each place, the value of the last write to
it.  `lastSome write items` is that value: the last item for which `write` is
defined decides.  Items may be grouped into blocks; the last block that decides
anything decides.
-/

namespace NuxAuth.Lib.LastWrite

universe u v w

variable {Item : Type u} {Value : Type v} {Block : Type w}

/-- The value of the last item that has one. -/
def lastSome (write : Item → Option Value) (items : List Item) :
    Option Value :=
  items.foldl (fun found item => (write item).or found) none

theorem foldl_or_eq (write : Item → Option Value) (items : List Item)
    (found : Option Value) :
    items.foldl (fun found item => (write item).or found) found =
      (lastSome write items).or found := by
  induction items generalizing found with
  | nil => rfl
  | cons item rest induction =>
      rw [lastSome, List.foldl_cons, List.foldl_cons, induction,
        induction ((write item).or none)]
      cases lastSome write rest with
      | none => simp
      | some value => simp

@[simp]
theorem lastSome_nil (write : Item → Option Value) :
    lastSome write [] = none :=
  rfl

@[simp]
theorem lastSome_append (write : Item → Option Value)
    (front back : List Item) :
    lastSome write (front ++ back) =
      (lastSome write back).or (lastSome write front) := by
  rw [lastSome, List.foldl_append, foldl_or_eq]
  rfl

@[simp]
theorem lastSome_cons (write : Item → Option Value) (item : Item)
    (rest : List Item) :
    lastSome write (item :: rest) =
      (lastSome write rest).or (write item) := by
  rw [lastSome, List.foldl_cons, foldl_or_eq, Option.or_none]

/-- Replaying blocks of items is replaying one item for each block. -/
theorem lastSome_flatMap (write : Item → Option Value)
    (items : Block → List Item) (blocks : List Block) :
    lastSome write (blocks.flatMap items) =
      lastSome (fun block => lastSome write (items block)) blocks := by
  induction blocks with
  | nil => rfl
  | cons block rest induction =>
      rw [List.flatMap_cons, lastSome_append, induction, lastSome_cons]

/-- Nothing is found exactly when no item has a value. -/
theorem lastSome_eq_none_iff (write : Item → Option Value)
    (items : List Item) :
    lastSome write items = none ↔ ∀ item ∈ items, write item = none := by
  induction items with
  | nil => simp
  | cons item rest induction =>
      rw [lastSome_cons, Option.or_eq_none_iff, induction]
      simp [and_comm]

/-- A found value is that of an item with nothing after it. -/
theorem lastSome_eq_some_iff (write : Item → Option Value)
    (items : List Item) (value : Value) :
    lastSome write items = some value ↔
      ∃ front item back, items = front ++ item :: back ∧
        write item = some value ∧ ∀ later ∈ back, write later = none := by
  induction items with
  | nil => simp
  | cons item rest induction =>
      rw [lastSome_cons, Option.or_eq_some_iff, induction,
        lastSome_eq_none_iff]
      constructor
      · rintro (⟨front, decided, back, rfl, here, silent⟩ | ⟨silent, here⟩)
        · exact ⟨item :: front, decided, back, rfl, here, silent⟩
        · exact ⟨[], item, rest, rfl, here, silent⟩
      · rintro ⟨front, decided, back, whole, here, silent⟩
        cases front with
        | nil =>
            cases whole
            exact Or.inr ⟨silent, here⟩
        | cons first front =>
            cases whole
            exact Or.inl ⟨front, decided, back, rfl, here, silent⟩

/-- A test that holds of every value holds of the last one. -/
theorem lastSome_congr {write other : Item → Option Value}
    {items : List Item} (same : ∀ item ∈ items, write item = other item) :
    lastSome write items = lastSome other items := by
  induction items with
  | nil => rfl
  | cons item rest induction =>
      rw [lastSome_cons, lastSome_cons, same item List.mem_cons_self,
        induction fun later member => same later (List.mem_cons_of_mem _ member)]

end NuxAuth.Lib.LastWrite
