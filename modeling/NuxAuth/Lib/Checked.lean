import Mathlib.Data.List.Basic

/-!
# Checks that stop at the first error

A computation in `Except` succeeds exactly when each of its steps does.  The
same for the loops over a list, with the reader of an element given as a partial
function and its error added to it.
-/

namespace NuxAuth.Lib.Checked

universe u v w

variable {Error : Type u} {Source : Type v} {Target Value : Type w}

/-- The value, or the error where there is none. -/
def orError (error : Error) : Option Value → Except Error Value
  | some value => .ok value
  | none => .error error

@[simp]
theorem orError_eq_ok_iff {error : Error} {read : Option Value}
    {value : Value} :
    orError error read = .ok value ↔ read = some value := by
  cases read with
  | none => simp [orError]
  | some found => simp [orError]

/-- Nothing, or the error where a test fails. -/
def orFail (error : Error) (test : Bool) : Except Error PUnit :=
  if test then .ok ⟨⟩ else .error error

@[simp]
theorem orFail_eq_ok_iff {error : Error} {test : Bool} {value : PUnit} :
    orFail error test = .ok value ↔ test = true := by
  cases test with
  | false => simp [orFail]
  | true => simp [orFail]

theorem bind_eq_ok_iff {first : Except Error Value}
    {next : Value → Except Error Target} {result : Target} :
    (first >>= next) = .ok result ↔
      ∃ value, first = .ok value ∧ next value = .ok result := by
  cases first with
  | error error =>
      constructor
      · intro computed
        cases computed
      · rintro ⟨_, same, -⟩
        cases same
  | ok value =>
      constructor
      · intro computed
        exact ⟨value, rfl, computed⟩
      · rintro ⟨found, same, computed⟩
        cases same
        exact computed

/-- A check in front: it passes, and the rest succeeds. -/
theorem check_bind_eq_ok_iff {check : Except Error PUnit}
    {next : Except Error Target} {result : Target} :
    (check >>= fun _ => next) = .ok result ↔
      check = .ok ⟨⟩ ∧ next = .ok result := by
  rw [bind_eq_ok_iff]
  constructor
  · rintro ⟨⟨⟩, passed, computed⟩
    exact ⟨passed, computed⟩
  · rintro ⟨passed, computed⟩
    exact ⟨⟨⟩, passed, computed⟩

/-- Another error changes no success. -/
theorem mapError_eq_ok_iff {First Second Value : Type}
    {computed : Except First Value} {wrap : First → Second} {value : Value} :
    computed.mapError wrap = .ok value ↔ computed.toOption = some value := by
  cases computed with
  | error error => simp [Except.mapError, Except.toOption]
  | ok found => simp [Except.mapError, Except.toOption]

/-- A loop of checks passes when each of them does. -/
theorem forM_eq_ok_iff {check : Source → Except Error PUnit}
    {items : List Source} :
    items.forM check = .ok ⟨⟩ ↔ ∀ item ∈ items, check item = .ok ⟨⟩ := by
  induction items with
  | nil => exact iff_of_true rfl (by simp)
  | cons item rest induction =>
      have steps : (item :: rest).forM check =
          (check item >>= fun _ => rest.forM check) := rfl
      rw [steps, List.forall_mem_cons, check_bind_eq_ok_iff, induction]

/-- A loop that reads every element finds what plain readers find. -/
theorem mapM_eq_ok_iff {check : Source → Except Error Value}
    {read : Source → Option Value}
    (agrees : ∀ item value, check item = .ok value ↔ read item = some value)
    {items : List Source} {values : List Value} :
    items.mapM check = .ok values ↔ items.mapM read = some values := by
  induction items generalizing values with
  | nil => simp [pure, Except.pure]
  | cons item rest induction =>
      rw [List.mapM_cons, List.mapM_cons, bind_eq_ok_iff, Option.bind_eq_bind,
        Option.bind_eq_some_iff]
      refine exists_congr fun value => and_congr (agrees item value) ?_
      rw [bind_eq_ok_iff, Option.bind_eq_bind, Option.bind_eq_some_iff]
      refine exists_congr fun others => and_congr induction ?_
      simp [pure, Except.pure]

theorem mapM_isSome_iff {read : Source → Option Value}
    {items : List Source} :
    (items.mapM read).isSome ↔ ∀ item ∈ items, (read item).isSome := by
  induction items with
  | nil => simp
  | cons item rest induction =>
      rw [List.mapM_cons, List.forall_mem_cons, ← induction]
      cases read item with
      | none => simp
      | some value =>
          cases rest.mapM read with
          | none => simp
          | some values => simp

/-! ## What a failure can be -/

/-- Every error of the computation is one of these. -/
def FailsIn (errors : Error → Prop) (computed : Except Error Value) : Prop :=
  ∀ error, computed = .error error → errors error

theorem FailsIn.bind {errors : Error → Prop} {first : Except Error Value}
    {next : Value → Except Error Target} (start : FailsIn errors first)
    (rest : ∀ value, FailsIn errors (next value)) :
    FailsIn errors (first >>= next) := by
  intro error failed
  cases first with
  | error found =>
      cases failed
      exact start error rfl
  | ok value => exact rest value error failed

theorem FailsIn.forM {errors : Error → Prop}
    {check : Source → Except Error PUnit}
    (each : ∀ item, FailsIn errors (check item)) (items : List Source) :
    FailsIn errors (items.forM check) := by
  induction items with
  | nil =>
      intro error failed
      cases failed
  | cons item rest induction =>
      have steps : (item :: rest).forM check =
          (check item >>= fun _ => rest.forM check) := rfl
      rw [steps]
      exact (each item).bind fun _ => induction

end NuxAuth.Lib.Checked
