import Mathlib.Data.List.Basic
import Mathlib.Tactic.Ring

/-!
# A bounded binary format with variable-length integers

Integers are little-endian with a one-byte form below 251 and markers 251, 252
and 253 announcing two, four and eight bytes; strings are a length and UTF-8
bytes; fixed arrays are their bytes.  A reader carries a byte budget besides
the unread input, and fails as soon as either is too small.

`Reads reader value encoded` says that the reader consumes exactly `encoded`
from the front of any input with enough budget and returns `value`.  It
composes along `bind`, so that a record is read back from the concatenation of
its fields.

`Accepts reader Encodes` is the converse: whatever the reader takes, longer
forms of an integer included, it would take the same way off any other input,
and the value it returns has an encoding that is no longer.
-/

namespace NuxAuth.Lib.Bincode

/-! ## Little-endian integers -/

/-- The `width` low-order bytes of a number, least significant first. -/
def littleEndian : Nat → Nat → List UInt8
  | 0, _ => []
  | width + 1, number =>
      UInt8.ofNat number :: littleEndian width (number / 256)

/-- The number written by little-endian bytes. -/
def littleEndianValue : List UInt8 → Nat
  | [] => 0
  | byte :: rest => byte.toNat + 256 * littleEndianValue rest

@[simp]
theorem length_littleEndian (width number : Nat) :
    (littleEndian width number).length = width := by
  induction width generalizing number with
  | zero => rfl
  | succ width induction => simp [littleEndian, induction]

theorem littleEndianValue_littleEndian (width number : Nat) :
    littleEndianValue (littleEndian width number) = number % 256 ^ width := by
  induction width generalizing number with
  | zero => simp [littleEndian, littleEndianValue, Nat.mod_one]
  | succ width induction =>
      have split : number % 256 ^ (width + 1) =
          number % 256 + 256 * (number / 256 % 256 ^ width) := by
        rw [Nat.pow_succ', Nat.mod_mul]
      rw [littleEndian, littleEndianValue, induction, split]
      simp

/-! ## Bounded readers -/

/-- What a bounded reader has left: its byte budget and the unread bytes. -/
structure Input where
  budget : Nat
  bytes : List UInt8

/-- A reader consumes input or fails. -/
abbrev Reader := StateT Input Option

/-- Read exactly `count` bytes. -/
def take (count : Nat) : Reader (List UInt8) := fun input =>
  if count ≤ input.budget ∧ count ≤ input.bytes.length then
    some (input.bytes.take count,
      ⟨input.budget - count, input.bytes.drop count⟩)
  else
    none

/-- Read a little-endian integer of the given width. -/
def readWidth (width : Nat) : Reader Nat := do
  return littleEndianValue (← take width)

/-- The integer announced by its first byte; longer forms are not refused. -/
def readMarked (marker : Nat) : Reader Nat :=
  if marker < 251 then
    pure marker
  else if marker = 251 then
    readWidth 2
  else if marker = 252 then
    readWidth 4
  else if marker = 253 then
    readWidth 8
  else
    failure

/-- Read one unsigned integer of at most 64 bits. -/
def readVarint : Reader Nat := do
  readMarked (← readWidth 1)

/-- The UTF-8 bytes of a string. -/
def utf8Bytes (text : String) : List UInt8 :=
  text.toUTF8.data.toList

/-- The string written by UTF-8 bytes, if they are well formed. -/
def utf8String? (bytes : List UInt8) : Option String :=
  String.fromUTF8? ⟨bytes.toArray⟩

/-- Read a string: its length, then its bytes. -/
def readString : Reader String := do
  let length ← readVarint
  let bytes ← take length
  match utf8String? bytes with
  | some text => return text
  | none => failure

/-- One byte. -/
def readByte : Reader UInt8 := fun input =>
  match input with
  | ⟨budget + 1, byte :: rest⟩ => some (byte, ⟨budget, rest⟩)
  | _ => none

/-- A number that must fit in 32 bits, as the tag of a variant does. -/
def readTag : Reader Nat := do
  let tag ← readVarint
  if tag < 2 ^ 32 then return tag else failure

/-- So many values. -/
def readMany {Value : Type} (element : Reader Value) :
    Nat → Reader (List Value)
  | 0 => return []
  | count + 1 => do
      let first ← element
      let others ← readMany element count
      return first :: others

/-- Read a sequence: its length, then its elements. -/
def readList {Value : Type} (element : Reader Value) :
    Reader (List Value) := do
  let length ← readVarint
  readMany element length

/-- Run a reader on a whole message; left-over bytes are refused. -/
def decodeAll {Value : Type} (reader : Reader Value) (limit : Nat)
    (bytes : List UInt8) : Option Value :=
  match reader ⟨limit, bytes⟩ with
  | some (value, rest) => if rest.bytes = [] then some value else none
  | none => none

/-! ## Writers -/

/-- The shortest form of an unsigned integer of at most 64 bits. -/
def varint (number : Nat) : List UInt8 :=
  if number < 251 then
    [UInt8.ofNat number]
  else if number < 2 ^ 16 then
    251 :: littleEndian 2 number
  else if number < 2 ^ 32 then
    252 :: littleEndian 4 number
  else
    253 :: littleEndian 8 number

/-- The bytes of a string: its length, then its UTF-8 bytes. -/
def stringBytes (text : String) : List UInt8 :=
  varint (utf8Bytes text).length ++ utf8Bytes text

/-- The values behind their number. -/
def listBytes {Value : Type} (write : Value → List UInt8)
    (values : List Value) : List UInt8 :=
  varint values.length ++ values.flatMap write

/-- A message is written whole or, past the limit, not at all. -/
def encodeBounded (limit : Nat) (bytes : List UInt8) : Option (List UInt8) :=
  if bytes.length ≤ limit then some bytes else none

/-! ## Reading back what was written -/

/--
The reader takes exactly `encoded` off the front of any input whose budget
covers it, and returns `value`.
-/
def Reads {Value : Type} (reader : Reader Value) (value : Value)
    (encoded : List UInt8) : Prop :=
  ∀ budget rest, encoded.length ≤ budget →
    reader ⟨budget, encoded ++ rest⟩ =
      some (value, ⟨budget - encoded.length, rest⟩)

theorem Reads.pure {Value : Type} (value : Value) :
    Reads (Pure.pure value) value [] := by
  intro budget rest _
  rfl

/-- Readers in sequence read the concatenation. -/
theorem Reads.bind {First Second : Type} {reader : Reader First}
    {next : First → Reader Second} {first : First} {second : Second}
    {front back : List UInt8}
    (readsFirst : Reads reader first front)
    (readsSecond : Reads (next first) second back) :
    Reads (reader >>= next) second (front ++ back) := by
  intro budget rest enough
  rw [List.length_append] at enough
  have afterFirst := readsFirst budget (back ++ rest) (by omega)
  have afterSecond :=
    readsSecond (budget - front.length) rest (by omega)
  change (reader ⟨budget, front ++ back ++ rest⟩).bind
      (fun result => next result.1 result.2) = _
  rw [List.append_assoc, afterFirst, Option.bind_some, afterSecond,
    List.length_append, Nat.sub_sub]

theorem Reads.take (bytes : List UInt8) :
    Reads (Bincode.take bytes.length) bytes bytes := by
  intro budget rest enough
  simp [Bincode.take, enough]

theorem Reads.takeOf {bytes : List UInt8} {count : Nat}
    (exact : bytes.length = count) :
    Reads (Bincode.take count) bytes bytes :=
  exact ▸ Reads.take bytes

theorem Reads.width {number width : Nat} (small : number < 256 ^ width) :
    Reads (readWidth width) number (littleEndian width number) := by
  have value : littleEndianValue (littleEndian width number) = number := by
    rw [littleEndianValue_littleEndian, Nat.mod_eq_of_lt small]
  rw [← List.append_nil (littleEndian width number)]
  apply Reads.bind (Reads.takeOf (length_littleEndian width number))
  rw [value]
  exact Reads.pure number

/-- The marker selects how the rest of the integer is read. -/
theorem Reads.ofMarker {number marker : Nat} {rest : List UInt8}
    (byte : marker < 256) (readsRest : Reads (readMarked marker) number rest) :
    Reads readVarint number (UInt8.ofNat marker :: rest) := by
  have front : Reads (readWidth 1) marker (littleEndian 1 marker) :=
    Reads.width (by simpa using byte)
  exact Reads.bind front readsRest

/-- The shortest form of a 64-bit integer is read back. -/
theorem Reads.varint {number : Nat} (small : number < 2 ^ 64) :
    Reads readVarint number (varint number) := by
  unfold Bincode.varint
  split
  · rename_i below
    apply Reads.ofMarker (by omega)
    rw [readMarked, if_pos below]
    exact Reads.pure number
  · split
    · have body : Reads (readMarked 251) number (littleEndian 2 number) :=
        Reads.width (by omega)
      exact Reads.ofMarker (by decide) body
    · split
      · have body : Reads (readMarked 252) number (littleEndian 4 number) :=
          Reads.width (by omega)
        exact Reads.ofMarker (by decide) body
      · have body : Reads (readMarked 253) number (littleEndian 8 number) :=
          Reads.width (by omega)
        exact Reads.ofMarker (by decide) body

@[simp]
theorem utf8String?_utf8Bytes (text : String) :
    utf8String? (utf8Bytes text) = some text := by
  have same : (⟨(utf8Bytes text).toArray⟩ : ByteArray) = text.toUTF8 := rfl
  have valid : text.toUTF8.IsValidUTF8 := text.isValidUTF8
  rw [utf8String?, same, String.fromUTF8?, dif_pos valid]
  rfl

theorem utf8Bytes_injective : Function.Injective utf8Bytes := by
  intro left right same
  have read := utf8String?_utf8Bytes left
  rw [same, utf8String?_utf8Bytes right] at read
  exact (Option.some.inj read).symm

/-- A string whose length fits in 64 bits is read back. -/
theorem Reads.string {text : String}
    (small : (utf8Bytes text).length < 2 ^ 64) :
    Reads readString text (stringBytes text) := by
  apply Reads.bind (Reads.varint small)
  rw [← List.append_nil (utf8Bytes text)]
  apply Reads.bind (Reads.takeOf (by simp))
  simpa using Reads.pure text

/-- A whole message within the limit decodes to the value it encodes. -/
theorem decodeAll_of_reads {Value : Type} {reader : Reader Value}
    {value : Value} {encoded : List UInt8} {limit : Nat}
    (reads : Reads reader value encoded) (within : encoded.length ≤ limit) :
    decodeAll reader limit encoded = some value := by
  have result := reads limit [] within
  rw [List.append_nil] at result
  simp [decodeAll, result]

theorem Reads.map {First Second : Type} {reader : Reader First}
    {first : First} {encoded : List UInt8} (change : First → Second)
    (reads : Reads reader first encoded) :
    Reads (do return change (← reader)) (change first) encoded := by
  rw [← List.append_nil encoded]
  exact Reads.bind reads (Reads.pure (change first))

theorem Reads.byte (byte : UInt8) : Reads readByte byte [byte] := by
  rintro (_ | budget) rest enough
  · simp at enough
  · rfl

/-- The tag of a variant is read back. -/
theorem Reads.tag {tag : Nat} (small : tag < 2 ^ 32) :
    Reads readTag tag (Bincode.varint tag) := by
  rw [← List.append_nil (Bincode.varint tag)]
  apply Reads.bind (Reads.varint (by omega))
  rw [if_pos small]
  exact Reads.pure tag

theorem Reads.many {Value : Type} {element : Reader Value}
    {write : Value → List UInt8} {values : List Value}
    (each : ∀ value ∈ values, Reads element value (write value)) :
    Reads (readMany element values.length) values (values.flatMap write) := by
  induction values with
  | nil => exact Reads.pure []
  | cons first others induction =>
      rw [List.flatMap_cons]
      apply Reads.bind (each first List.mem_cons_self)
      apply Reads.map (first :: ·)
      apply induction
      intro value member
      exact each value (List.mem_cons_of_mem first member)

/-- A sequence whose length fits in 64 bits is read back. -/
theorem Reads.list {Value : Type} {element : Reader Value}
    {write : Value → List UInt8} {values : List Value}
    (small : values.length < 2 ^ 64)
    (each : ∀ value ∈ values, Reads element value (write value)) :
    Reads (readList element) values (listBytes write values) :=
  Reads.bind (Reads.varint small) (Reads.many each)

/-! ## What an accepted input can be -/

/-- The reader took `used` off the front of the input. -/
def Takes (input : Input) (used : List UInt8) (rest : Input) : Prop :=
  input.bytes = used ++ rest.bytes ∧ input.budget = rest.budget + used.length

theorem Takes.trans {input middle rest : Input} {front back : List UInt8}
    (first : Takes input front middle) (second : Takes middle back rest) :
    Takes input (front ++ back) rest := by
  rcases first with ⟨firstBytes, firstBudget⟩
  rcases second with ⟨secondBytes, secondBudget⟩
  constructor
  · rw [firstBytes, secondBytes, List.append_assoc]
  · rw [firstBudget, secondBudget, List.length_append]
    omega

/-- What an accepted input tells about the value. -/
structure Accepted {Value : Type} (reader : Reader Value)
    (Encodes : Value → List UInt8 → Prop) (input : Input) (value : Value)
    (rest : Input) where
  used : List UInt8
  takes : Takes input used rest
  readsUsed : Reads reader value used
  encoded : List UInt8
  encodes : Encodes value encoded
  shorter : encoded.length ≤ used.length
  readsEncoded : Reads reader value encoded

/--
Whatever the reader takes, it takes off the front of any other input as well,
and the value has an encoding that is no longer and read back too.
-/
def Accepts {Value : Type} (reader : Reader Value)
    (Encodes : Value → List UInt8 → Prop) : Prop :=
  ∀ input value rest, reader input = some (value, rest) →
    Nonempty (Accepted reader Encodes input value rest)

section Accepts

variable {First Second Value : Type}

/-- Where a shorter encoding is known, it may be the one that is named. -/
theorem Accepts.shorten {reader : Reader Value}
    {Encodes Shorter : Value → List UInt8 → Prop}
    (accepts : Accepts reader Encodes)
    (shorten : ∀ value encoded, Encodes value encoded →
      ∃ shortest, Shorter value shortest ∧
        shortest.length ≤ encoded.length ∧ Reads reader value shortest) :
    Accepts reader Shorter := by
  intro input value rest result
  rcases accepts input value rest result with ⟨accepted⟩
  rcases shorten value accepted.encoded accepted.encodes with
    ⟨shortest, named, shorter, reads⟩
  exact ⟨{ accepted with
    encoded := shortest
    encodes := named
    shorter := shorter.trans accepted.shorter
    readsEncoded := reads }⟩

theorem Accepts.mono {reader : Reader Value}
    {Encodes Weaker : Value → List UInt8 → Prop}
    (accepts : Accepts reader Encodes)
    (weaken : ∀ value encoded, Encodes value encoded →
      Weaker value encoded) :
    Accepts reader Weaker := by
  intro input value rest result
  rcases accepts input value rest result with ⟨accepted⟩
  exact ⟨{ accepted with
    encodes := weaken value accepted.encoded accepted.encodes }⟩

theorem Accepts.pure (value : Value) :
    Accepts (Pure.pure value)
      (fun other encoded => other = value ∧ encoded = []) := by
  intro input other rest result
  cases result
  exact ⟨{
    used := []
    takes := ⟨rfl, rfl⟩
    readsUsed := Reads.pure value
    encoded := []
    encodes := ⟨rfl, rfl⟩
    shorter := le_refl 0
    readsEncoded := Reads.pure value }⟩

theorem Accepts.fails {Encodes : Value → List UInt8 → Prop} :
    Accepts failure Encodes := by
  intro input value rest result
  cases result

/-- Accepted inputs of readers in sequence are concatenations. -/
theorem Accepts.bind {reader : Reader First} {next : First → Reader Second}
    {Front : First → List UInt8 → Prop}
    {Back : First → Second → List UInt8 → Prop}
    (acceptsFirst : Accepts reader Front)
    (acceptsNext : ∀ first, Accepts (next first) (Back first)) :
    Accepts (reader >>= next) (fun second encoded =>
      ∃ first front back, Front first front ∧ Back first second back ∧
        encoded = front ++ back) := by
  intro input second rest result
  have sequence : (reader input).bind
      (fun result => next result.1 result.2) = some (second, rest) := result
  rcases Option.bind_eq_some_iff.mp sequence with
    ⟨⟨first, middle⟩, readFirst, readSecond⟩
  rcases acceptsFirst input first middle readFirst with ⟨front⟩
  rcases acceptsNext first middle second rest readSecond with ⟨back⟩
  refine ⟨{
    used := front.used ++ back.used
    takes := front.takes.trans back.takes
    readsUsed := Reads.bind front.readsUsed back.readsUsed
    encoded := front.encoded ++ back.encoded
    encodes := ⟨first, front.encoded, back.encoded, front.encodes,
      back.encodes, rfl⟩
    shorter := ?_
    readsEncoded := Reads.bind front.readsEncoded back.readsEncoded }⟩
  rw [List.length_append, List.length_append]
  exact Nat.add_le_add front.shorter back.shorter

theorem Accepts.map {reader : Reader First}
    {Encodes : First → List UInt8 → Prop} (change : First → Second)
    (accepts : Accepts reader Encodes) :
    Accepts (do return change (← reader)) (fun second encoded =>
      ∃ first, second = change first ∧ Encodes first encoded) := by
  apply (Accepts.bind accepts fun first => Accepts.pure (change first)).mono
  rintro second encoded ⟨first, front, back, encodes, ⟨rfl, rfl⟩, rfl⟩
  exact ⟨first, rfl, by rwa [List.append_nil]⟩

theorem Accepts.take (count : Nat) :
    Accepts (Bincode.take count)
      (fun bytes encoded => encoded = bytes ∧ bytes.length = count) := by
  intro input bytes rest result
  rw [Bincode.take, Option.ite_none_right_eq_some] at result
  rcases result with ⟨⟨budget, enough⟩, same⟩
  cases same
  have exact : (input.bytes.take count).length = count :=
    List.length_take_of_le enough
  exact ⟨{
    used := input.bytes.take count
    takes := ⟨(List.take_append_drop count input.bytes).symm,
      by rw [exact]; exact (Nat.sub_add_cancel budget).symm⟩
    readsUsed := Reads.takeOf exact
    encoded := input.bytes.take count
    encodes := ⟨rfl, exact⟩
    shorter := le_refl _
    readsEncoded := Reads.takeOf exact }⟩

theorem Accepts.byte :
    Accepts readByte (fun byte encoded => encoded = [byte]) := by
  intro input byte rest result
  unfold readByte at result
  split at result
  · cases result
    exact ⟨{
      used := [byte]
      takes := ⟨rfl, rfl⟩
      readsUsed := Reads.byte byte
      encoded := [byte]
      encodes := rfl
      shorter := le_refl _
      readsEncoded := Reads.byte byte }⟩
  · cases result

end Accepts

/-! ## Accepted integers, strings and sequences -/

theorem littleEndianValue_lt (bytes : List UInt8) :
    littleEndianValue bytes < 256 ^ bytes.length := by
  induction bytes with
  | nil => simp [littleEndianValue]
  | cons byte rest induction =>
      have small : byte.toNat < 256 := byte.toNat_lt
      rw [littleEndianValue, List.length_cons, Nat.pow_succ']
      omega

theorem Accepts.width (width : Nat) :
    Accepts (readWidth width)
      (fun number encoded =>
        encoded.length = width ∧ number < 256 ^ width) := by
  apply (Accepts.map littleEndianValue (Accepts.take width)).mono
  rintro number encoded ⟨bytes, rfl, rfl, exact⟩
  exact ⟨exact, exact ▸ littleEndianValue_lt encoded⟩

/-- The shortest form never takes more bytes than an announced width. -/
theorem length_varint_le {number width : Nat}
    (announced : width = 2 ∨ width = 4 ∨ width = 8)
    (small : number < 256 ^ width) :
    number < 2 ^ 64 ∧ (varint number).length ≤ width + 1 := by
  unfold varint
  rcases announced with rfl | rfl | rfl
  · constructor
    · omega
    · split_ifs <;> simp <;> omega
  · constructor
    · omega
    · split_ifs <;> simp
      omega
  · constructor
    · omega
    · split_ifs <;> simp

theorem Accepts.marked {marker : Nat} :
    Accepts (readMarked marker)
      (fun number encoded => number < 2 ^ 64 ∧
        (varint number).length ≤ encoded.length + 1) := by
  have announced : ∀ width : Nat, (width = 2 ∨ width = 4 ∨ width = 8) →
      Accepts (readWidth width) (fun number encoded => number < 2 ^ 64 ∧
        (varint number).length ≤ encoded.length + 1) := by
    intro width known
    apply (Accepts.width width).mono
    rintro number encoded ⟨rfl, small⟩
    exact length_varint_le known small
  unfold readMarked
  split
  · rename_i below
    apply (Accepts.pure marker).mono
    rintro number encoded ⟨rfl, rfl⟩
    exact ⟨by omega, by simp [varint, below]⟩
  · split
    · exact announced 2 (by simp)
    · split
      · exact announced 4 (by simp)
      · split
        · exact announced 8 (by simp)
        · exact Accepts.fails

/-- An accepted integer has 64 bits, in its shortest form or a longer one. -/
theorem Accepts.varint :
    Accepts readVarint
      (fun number encoded => encoded = varint number ∧ number < 2 ^ 64) := by
  apply (Accepts.bind (Accepts.width 1)
    fun marker => Accepts.marked).shorten
  rintro number encoded ⟨marker, front, back, ⟨exact, -⟩, ⟨small, shorter⟩,
    rfl⟩
  refine ⟨Bincode.varint number, ⟨rfl, small⟩, ?_, Reads.varint small⟩
  rw [List.length_append, exact]
  omega

theorem Accepts.tag :
    Accepts readTag
      (fun tag encoded => encoded = Bincode.varint tag ∧ tag < 2 ^ 32) := by
  have checked : ∀ tag : Nat,
      Accepts (if tag < 2 ^ 32 then return tag else failure)
        (fun other encoded => other = tag ∧ tag < 2 ^ 32 ∧ encoded = []) := by
    intro tag
    split
    · rename_i small
      apply (Accepts.pure tag).mono
      rintro other encoded ⟨rfl, rfl⟩
      exact ⟨rfl, small, rfl⟩
    · exact Accepts.fails
  apply (Accepts.bind Accepts.varint checked).mono
  rintro tag encoded ⟨_, front, back, ⟨rfl, -⟩, ⟨rfl, small, rfl⟩, rfl⟩
  exact ⟨List.append_nil _, small⟩

/-- Well-formed UTF-8 is the encoding of the string it reads as. -/
theorem utf8Bytes_of_utf8String? {bytes : List UInt8} {text : String}
    (valid : utf8String? bytes = some text) :
    utf8Bytes text = bytes := by
  unfold utf8String? String.fromUTF8? at valid
  split at valid
  · cases valid
    rfl
  · cases valid

theorem Accepts.string :
    Accepts readString
      (fun text encoded => encoded = stringBytes text ∧
        (utf8Bytes text).length < 2 ^ 64) := by
  have valid : ∀ bytes : List UInt8,
      Accepts (match utf8String? bytes with
        | some text => return text
        | none => failure)
        (fun text encoded => utf8Bytes text = bytes ∧ encoded = []) := by
    intro bytes
    split
    · rename_i text valid
      apply (Accepts.pure text).mono
      rintro other encoded ⟨rfl, rfl⟩
      exact ⟨utf8Bytes_of_utf8String? valid, rfl⟩
    · exact Accepts.fails
  apply (Accepts.bind Accepts.varint fun length =>
    Accepts.bind (Accepts.take length) valid).mono
  rintro text encoded ⟨length, front, _, ⟨rfl, small⟩,
    ⟨bytes, back, rest, ⟨rfl, rfl⟩, ⟨rfl, rfl⟩, rfl⟩, rfl⟩
  exact ⟨by rw [List.append_nil]; rfl, small⟩

theorem Accepts.many {Value : Type} {element : Reader Value}
    {write : Value → List UInt8}
    (each : Accepts element fun value encoded => encoded = write value)
    (count : Nat) :
    Accepts (readMany element count)
      (fun values encoded => encoded = values.flatMap write ∧
        values.length = count) := by
  induction count with
  | zero =>
      apply (Accepts.pure []).mono
      rintro values encoded ⟨rfl, rfl⟩
      exact ⟨rfl, rfl⟩
  | succ count induction =>
      apply (Accepts.bind each fun first =>
        Accepts.map (first :: ·) induction).mono
      rintro values encoded ⟨first, front, back, rfl,
        ⟨others, rfl, rfl, rfl⟩, rfl⟩
      exact ⟨List.flatMap_cons.symm, rfl⟩

theorem Accepts.list {Value : Type} {element : Reader Value}
    {write : Value → List UInt8}
    (each : Accepts element fun value encoded => encoded = write value) :
    Accepts (readList element)
      (fun values encoded => encoded = listBytes write values ∧
        values.length < 2 ^ 64) := by
  apply (Accepts.bind Accepts.varint fun length =>
    Accepts.many each length).mono
  rintro values encoded ⟨length, front, back, ⟨rfl, small⟩, ⟨rfl, rfl⟩, rfl⟩
  exact ⟨rfl, small⟩

/-! ## Whole messages -/

section Whole

variable {Value : Type} {reader : Reader Value} {write : Value → List UInt8}
    {limit : Nat} {bytes : List UInt8} {value : Value}

theorem decodeAll_eq_some_iff :
    decodeAll reader limit bytes = some value ↔
      ∃ budget, reader ⟨limit, bytes⟩ = some (value, ⟨budget, []⟩) := by
  unfold decodeAll
  cases result : reader ⟨limit, bytes⟩ with
  | none => simp
  | some pair =>
      rcases pair with ⟨read, budget, rest⟩
      cases rest with
      | nil => simp
      | cons byte rest => simp

/-- A decoded message is within the limit, and so is its own encoding. -/
theorem exists_reads_of_decodeAll
    (accepts : Accepts reader fun value encoded => encoded = write value)
    (decoded : decodeAll reader limit bytes = some value) :
    bytes.length ≤ limit ∧ Reads reader value bytes ∧
      (write value).length ≤ bytes.length ∧
        Reads reader value (write value) := by
  rcases decodeAll_eq_some_iff.mp decoded with ⟨budget, result⟩
  rcases accepts _ _ _ result with ⟨accepted⟩
  rcases accepted with ⟨used, ⟨sameBytes, sameBudget⟩, readsUsed, encoded,
    rfl, shorter, readsEncoded⟩
  simp only [List.append_nil] at sameBytes
  subst sameBytes
  simp only at sameBudget
  exact ⟨by omega, readsUsed, shorter, readsEncoded⟩

/-- Nothing may follow a message. -/
theorem decodeAll_append_eq_none {extra : List UInt8}
    (accepts : Accepts reader fun value encoded => encoded = write value)
    (decoded : decodeAll reader limit bytes = some value)
    (more : extra ≠ []) :
    decodeAll reader limit (bytes ++ extra) = none := by
  rcases exists_reads_of_decodeAll accepts decoded with ⟨within, reads, -⟩
  simp [decodeAll, reads limit extra within, more]

end Whole

end NuxAuth.Lib.Bincode
