import Mathlib.Data.List.Induction
import Mathlib.Data.List.Nodup

/-!
# Lists whose elements carry distinct keys

A list without two elements of the same key is a finite map kept in insertion
order.  `upsertBy` overwrites the first element with the new element's key, or
appends the new element; on a list of distinct keys this is the map update.
A scan that remembers the last matching position finds the same element as a
scan that stops at the first one.
-/

namespace NuxAuth.Lib.KeyedList

universe u v

variable {Element : Type u} {Key : Type v}

/-- No two elements share a key. -/
def DistinctKeys (key : Element → Key) (elements : List Element) : Prop :=
  (elements.map key).Nodup

theorem DistinctKeys.nil (key : Element → Key) :
    DistinctKeys key [] := by
  simp [DistinctKeys]

/-- Two members of the same key are the same element. -/
theorem DistinctKeys.eq_of_mem {key : Element → Key}
    {elements : List Element} (distinct : DistinctKeys key elements)
    {left right : Element} (leftMember : left ∈ elements)
    (rightMember : right ∈ elements) (same : key left = key right) :
    left = right :=
  List.inj_on_of_nodup_map distinct leftMember rightMember same

theorem DistinctKeys.filter {key : Element → Key}
    {elements : List Element} (distinct : DistinctKeys key elements)
    (test : Element → Bool) :
    DistinctKeys key (elements.filter test) :=
  List.Nodup.sublist (List.filter_sublist.map key) distinct

variable [DecidableEq Key]

/-- Overwrite the first element with the same key, or append. -/
def upsertBy (key : Element → Key) (new : Element) :
    List Element → List Element
  | [] => [new]
  | element :: rest =>
      if key element = key new then
        new :: rest
      else
        element :: upsertBy key new rest

/-- The keys of an update: unchanged when present, extended when absent. -/
theorem map_upsertBy (key : Element → Key) (new : Element)
    (elements : List Element) :
    (upsertBy key new elements).map key =
      if key new ∈ elements.map key then
        elements.map key
      else
        elements.map key ++ [key new] := by
  induction elements with
  | nil => simp [upsertBy]
  | cons element rest induction =>
      by_cases same : key element = key new
      · simp [upsertBy, same]
      · have different : key new ≠ key element := fun equal => same equal.symm
        simp only [upsertBy, if_neg same, List.map_cons, induction,
          List.mem_cons, different, false_or]
        split <;> simp

theorem DistinctKeys.upsertBy {key : Element → Key}
    {elements : List Element} (distinct : DistinctKeys key elements)
    (new : Element) :
    DistinctKeys key (upsertBy key new elements) := by
  rw [DistinctKeys, map_upsertBy]
  split
  · exact distinct
  · rename_i absent
    rw [List.nodup_append]
    refine ⟨distinct, by simp, ?_⟩
    rintro left leftMember right rightMember rfl
    rw [List.mem_singleton.mp rightMember] at leftMember
    exact absent leftMember

/-- Looking a key up after an update, whether or not keys are distinct. -/
theorem find?_upsertBy (key : Element → Key) (new : Element)
    (elements : List Element) (wanted : Key) :
    (upsertBy key new elements).find? (fun element => key element = wanted) =
      if key new = wanted then some new
      else elements.find? fun element => key element = wanted := by
  induction elements with
  | nil => simp [upsertBy]
  | cons element rest induction =>
      rw [KeyedList.upsertBy]
      by_cases same : key element = key new
      · rw [if_pos same]
        by_cases here : key new = wanted
        · simp [here]
        · simp [here, same]
      · rw [if_neg same]
        by_cases there : key element = wanted
        · have absent : key new ≠ wanted :=
            fun here => same (there.trans here.symm)
          simp [there, absent]
        · rw [List.find?_cons_of_neg (by simp [there]), induction]
          simp [there]

/-- With distinct keys, what is found is what is there. -/
theorem DistinctKeys.find?_eq_some_iff {key : Element → Key}
    {elements : List Element} (distinct : DistinctKeys key elements)
    {wanted : Key} {element : Element} :
    elements.find? (fun element => key element = wanted) = some element ↔
      element ∈ elements ∧ key element = wanted := by
  constructor
  · intro found
    exact ⟨List.mem_of_find?_eq_some found,
      by simpa using List.find?_some found⟩
  · rintro ⟨member, here⟩
    cases found : elements.find? fun element => key element = wanted with
    | none =>
        have absent := List.find?_eq_none.mp found element member
        simp [here] at absent
    | some other =>
        have there : key other = wanted := by simpa using List.find?_some found
        rw [distinct.eq_of_mem (List.mem_of_find?_eq_some found) member
          (there.trans here.symm)]

/-- Membership after an update, for distinct keys. -/
theorem DistinctKeys.mem_upsertBy_iff {key : Element → Key}
    {elements : List Element} (distinct : DistinctKeys key elements)
    (new element : Element) :
    element ∈ KeyedList.upsertBy key new elements ↔
      element = new ∨ (element ∈ elements ∧ key element ≠ key new) := by
  induction elements with
  | nil => simp [KeyedList.upsertBy]
  | cons head rest induction =>
      have split : key head ∉ rest.map key ∧ DistinctKeys key rest :=
        List.nodup_cons.mp distinct
      obtain ⟨fresh, distinctRest⟩ := split
      by_cases same : key head = key new
      · rw [KeyedList.upsertBy, if_pos same]
        constructor
        · intro member
          rcases List.mem_cons.mp member with equal | inRest
          · exact Or.inl equal
          · refine Or.inr ⟨List.mem_cons_of_mem _ inRest, fun sameKey => ?_⟩
            apply fresh
            rw [same, ← sameKey]
            exact List.mem_map_of_mem inRest
        · rintro (equal | ⟨member, different⟩)
          · exact List.mem_cons.mpr (Or.inl equal)
          · rcases List.mem_cons.mp member with rfl | inRest
            · exact absurd same different
            · exact List.mem_cons_of_mem _ inRest
      · rw [KeyedList.upsertBy, if_neg same, List.mem_cons,
          induction distinctRest]
        constructor
        · rintro (rfl | equal | ⟨member, different⟩)
          · exact Or.inr ⟨List.mem_cons_self, same⟩
          · exact Or.inl equal
          · exact Or.inr ⟨List.mem_cons_of_mem _ member, different⟩
        · rintro (equal | ⟨member, different⟩)
          · exact Or.inr (Or.inl equal)
          · rcases List.mem_cons.mp member with rfl | inRest
            · exact Or.inl rfl
            · exact Or.inr (Or.inr ⟨inRest, different⟩)

/-! ## Scanning without early exit -/

/--
The position of the last element passing the test, found by a scan that never
stops early.
-/
def lastIndex (test : Element → Bool) (elements : List Element) :
    Option Nat :=
  elements.zipIdx.foldl
    (fun found entry => if test entry.1 then some entry.2 else found) none

theorem lastIndex_snoc (test : Element → Bool) (front : List Element)
    (last : Element) :
    lastIndex test (front ++ [last]) =
      if test last then some front.length else lastIndex test front := by
  rw [lastIndex, List.zipIdx_append, List.foldl_append]
  simp [lastIndex]

theorem lastIndex_lt_length {test : Element → Bool}
    {elements : List Element} {index : Nat}
    (found : lastIndex test elements = some index) :
    index < elements.length := by
  induction elements using List.reverseRecOn with
  | nil => simp [lastIndex] at found
  | append_singleton front last induction =>
      rw [lastIndex_snoc] at found
      rw [List.length_append, List.length_singleton]
      split at found
      · have := Option.some.inj found
        omega
      · have := induction found
        omega

/-- Reading at the remembered position ignores elements that fail the test. -/
theorem getElem?_lastIndex_snoc (test : Element → Bool)
    (front : List Element) (last : Element) :
    (lastIndex test (front ++ [last])).bind ((front ++ [last])[·]?) =
      if test last then some last
      else (lastIndex test front).bind (front[·]?) := by
  rw [lastIndex_snoc]
  split
  · simp
  · cases found : lastIndex test front with
    | none => rfl
    | some index =>
        simp [List.getElem?_append_left (lastIndex_lt_length found)]

/--
When at most one element passes the test, the full scan finds it exactly when
it is present.
-/
theorem getElem?_lastIndex_eq_some_iff {test : Element → Bool}
    {elements : List Element} {element : Element}
    (unique : ∀ left ∈ elements, ∀ right ∈ elements,
      test left = true → test right = true → left = right) :
    (lastIndex test elements).bind (elements[·]?) = some element ↔
      element ∈ elements ∧ test element = true := by
  induction elements using List.reverseRecOn with
  | nil => simp [lastIndex]
  | append_singleton front last induction =>
      have uniqueFront : ∀ left ∈ front, ∀ right ∈ front,
          test left = true → test right = true → left = right := by
        intro left leftMember right rightMember
        exact unique left (List.mem_append_left _ leftMember)
          right (List.mem_append_left _ rightMember)
      rw [getElem?_lastIndex_snoc]
      by_cases passes : test last = true
      · rw [if_pos passes, Option.some.injEq]
        constructor
        · rintro rfl
          exact ⟨by simp, passes⟩
        · rintro ⟨member, elementPasses⟩
          exact unique last (by simp) element member passes elementPasses
      · rw [if_neg passes, induction uniqueFront]
        constructor
        · rintro ⟨member, elementPasses⟩
          exact ⟨List.mem_append_left _ member, elementPasses⟩
        · rintro ⟨member, elementPasses⟩
          rcases List.mem_append.mp member with inFront | atEnd
          · exact ⟨inFront, elementPasses⟩
          · rw [List.mem_singleton.mp atEnd] at elementPasses
            exact absurd elementPasses passes

end NuxAuth.Lib.KeyedList
