import Mathlib.Data.List.Basic

/-!
# JSON values and records read from them

What a JSON document says, once parsed, and the readers that derived decoders
are made of.  A field that is present twice is an error, an unknown field is
skipped, and a field with a default may be missing.
-/

namespace NuxAuth.Lib.JsonValue

universe u v

/-- A JSON value; the numbers are integers. -/
inductive Json where
  | null
  | bool (value : Bool)
  | number (value : Int)
  | string (text : String)
  | array (elements : List Json)
  | object (fields : List (String × Json))

variable {Source : Type u} {Target : Type v}

/-- A string, and nothing else. -/
def asString : Json → Option String
  | .string text => some text
  | _ => none

/-- An integer below the bound of its type. -/
def asUnsigned (bound : Nat) : Json → Option Nat
  | .number value =>
      if 0 ≤ value ∧ value.toNat < bound then some value.toNat else none
  | _ => none

/-- All elements are read, or none. -/
def readAll (read : Json → Option Target) : List Json → Option (List Target)
  | [] => some []
  | element :: rest => do
      let first ← read element
      let others ← readAll read rest
      return first :: others

/-- An array whose elements are all read. -/
def asArray (read : Json → Option Target) : Json → Option (List Target)
  | .array elements => readAll read elements
  | _ => none

/-- The value of a field: none if it is absent, an error if it is there twice. -/
def field (name : String) : Json → Option (Option Json)
  | .object fields =>
      match fields.filter fun entry => entry.1 = name with
      | [] => some none
      | [entry] => some (some entry.2)
      | _ => none
  | _ => none

/-- A field that must be there. -/
def required (read : Json → Option Target) (name : String) (json : Json) :
    Option Target :=
  (field name json).bind fun value => value.bind read

/-- A field that may be missing. -/
def defaulted (read : Json → Option Target) (default : Target) (name : String)
    (json : Json) : Option Target :=
  (field name json).bind fun value =>
    match value with
    | none => some default
    | some present => read present

/-- The values of a record's fields, in their order: an object names them, an
array lists them.  A strict record has no other fields. -/
def recordFields (strict : Bool) (names : List String) :
    Json → Option (List (Option Json))
  | .object fields =>
      if strict && fields.any (fun entry => !names.contains entry.1) then none
      else names.mapM fun name => field name (.object fields)
  | .array elements =>
      if names.length < elements.length then none
      else some ((List.range names.length).map fun index => elements[index]?)
  | _ => none

/-- A value that may be missing. -/
def defaultOr (read : Json → Option Target) (default : Target) :
    Option Json → Option Target
  | none => some default
  | some present => read present

/-! ## Reading back -/

theorem asUnsigned_number {bound value : Nat} (below : value < bound) :
    asUnsigned bound (.number value) = some value :=
  if_pos ⟨Int.natCast_nonneg value, below⟩

/-- An array is read back where its elements are. -/
theorem asArray_map {read : Json → Option Target} {write : Source → Json}
    {image : Source → Target}
    (reads : ∀ source, read (write source) = some (image source))
    (sources : List Source) :
    asArray read (.array (sources.map write)) = some (sources.map image) := by
  rw [asArray]
  induction sources with
  | nil => rfl
  | cons source rest induction =>
      rw [List.map_cons, readAll, reads, induction]
      rfl

theorem asArray_string (texts : List String) :
    asArray asString (.array (texts.map Json.string)) = some texts := by
  have reads : ∀ text, asString (.string text) = some (id text) :=
    fun _ => rfl
  rw [asArray_map reads, List.map_id]

/-- A field that stands once is read with its own reader. -/
theorem required_of_field {read : Json → Option Target} {name : String}
    {json value : Json} (present : field name json = some (some value)) :
    required read name json = read value := by
  rw [required, present]
  rfl

theorem defaulted_of_field {read : Json → Option Target} {default : Target}
    {name : String} {json value : Json}
    (present : field name json = some (some value)) :
    defaulted read default name json = read value := by
  rw [defaulted, present]
  rfl

end NuxAuth.Lib.JsonValue
