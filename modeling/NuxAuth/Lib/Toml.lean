import Mathlib.Data.List.Basic

/-!
# TOML values and records read from them

What a TOML document says, once parsed, and the readers that derived decoders
are made of.  A record is read from a table by the names of its fields, or from
an array by their order; what is there besides is skipped.
-/

namespace NuxAuth.Lib.Toml

universe u v

/-- A TOML value. -/
inductive TomlData where
  | integer (value : Int)
  | string (text : String)
  | array (elements : List TomlData)
  | table (entries : List (String × TomlData))
  /-- a float, a boolean or a date -/
  | other (source : String)

/-- A document: the value of each top-level key. -/
abbrev TomlRoot := String → Option TomlData

variable {Source : Type u} {Target : Type v}

/-- A string, and nothing else. -/
def asString : TomlData → Option String
  | .string text => some text
  | _ => none

/-- An integer below the bound of its type. -/
def asUnsigned (bound : Nat) : TomlData → Option Nat
  | .integer value =>
      if 0 ≤ value ∧ value.toNat < bound then some value.toNat else none
  | _ => none

/-- An array whose elements are all read. -/
def asArray (read : TomlData → Option Target) :
    TomlData → Option (List Target)
  | .array elements => elements.mapM read
  | _ => none

/-- The fields of a record, each found by its place and its name. -/
def asRecord : TomlData → Option (Nat → String → Option TomlData)
  | .table entries => some fun _ name => entries.lookup name
  | .array elements => some fun place _ => elements[place]?
  | _ => none

/-- A field that must be there. -/
def required (read : TomlData → Option Target) (value : Option TomlData) :
    Option Target :=
  value.bind read

/-- A field that may be missing. -/
def defaulted (read : TomlData → Option Target) (default : Target) :
    Option TomlData → Option Target
  | none => some default
  | some present => read present

/-! ## Reading back -/

theorem asUnsigned_integer {bound value : Nat} (below : value < bound) :
    asUnsigned bound (.integer value) = some value :=
  if_pos ⟨Int.natCast_nonneg value, below⟩

/-- An array is read back where its elements are. -/
theorem asArray_map {read : TomlData → Option Target}
    {write : Source → TomlData} {image : Source → Target}
    (reads : ∀ source, read (write source) = some (image source))
    (sources : List Source) :
    asArray read (.array (sources.map write)) = some (sources.map image) := by
  rw [asArray]
  induction sources with
  | nil => rfl
  | cons source rest induction =>
      rw [List.map_cons, List.mapM_cons, reads, induction]
      rfl

theorem asArray_string (texts : List String) :
    asArray asString (.array (texts.map TomlData.string)) = some texts := by
  have reads : ∀ text, asString (.string text) = some (id text) :=
    fun _ => rfl
  rw [asArray_map reads, List.map_id]

end NuxAuth.Lib.Toml
