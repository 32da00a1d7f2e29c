import NuxAuth.Core.Codec
import NuxAuth.Core.Tunnel

/-!
# The opening frame on the stream

A Client writes the length of the encoded header in two bytes and the header
after it; a Guard reads both back and leaves the rest of the stream to the
relay.  Bytes arrive in chunks, one for each read that returns, and a read that
returns nothing is the end of the stream.
-/

namespace NuxAuth.Core

open NuxAuth.Lib.Bincode

/-! ## Writing -/

/-- Why a header is not written. -/
inductive WriteHeaderError where
  | io
  | tunnel (message : String)

/-- A big-endian `u16`. -/
def u16Bytes (number : Nat) : List UInt8 :=
  [UInt8.ofNat (number / 256), UInt8.ofNat number]

/-- What was sent before, and what `write_header` sends after it. -/
def writeHeader (header : TunnelHeader) (sent : List UInt8) :
    List UInt8 × Except WriteHeaderError Unit :=
  match (encode header : Option (List UInt8)) with
  | none => (sent, .error .io)
  | some bytes =>
      let length := if bytes.length < 2 ^ 16 then some bytes.length else none
      match length.filter (· ≤ maxTunnelHeaderSize) with
      | none =>
          (sent, .error (.tunnel ("en-tête de tunnel trop long (" ++
            toString bytes.length ++ " octets, max " ++
              toString maxTunnelHeaderSize ++ ")")))
      | some length => (sent ++ u16Bytes length ++ bytes, .ok ())

/-! ## Reading -/

/-- The chunks still to be read. -/
abbrev ByteStream := List (List UInt8)

/-- `read_exact`: short reads are repeated, never past the count. -/
def readExact : Nat → ByteStream → Option (List UInt8) × ByteStream
  | 0, stream => (some [], stream)
  | _ + 1, [] => (none, [])
  | count + 1, chunk :: rest =>
      if chunk = [] then
        (none, rest)
      else if count + 1 < chunk.length then
        (some (chunk.take (count + 1)), chunk.drop (count + 1) :: rest)
      else
        match readExact (count + 1 - chunk.length) rest with
        | (some bytes, left) => (some (chunk ++ bytes), left)
        | (none, left) => (none, left)

/-- The number that the bytes spell. -/
def bigEndianValue (bytes : List UInt8) : Nat :=
  bytes.foldl (fun value byte => value * 256 + byte.toNat) 0

/-- Why a header is not read. -/
inductive ReadHeaderError where
  | unexpectedEof
  | tooLong
  | undecodable

/-- The length is refused before a byte of the header is read. -/
def readHeaderFrom (stream : ByteStream) :
    Except ReadHeaderError TunnelHeader × ByteStream :=
  match readExact 2 stream with
  | (none, rest) => (.error .unexpectedEof, rest)
  | (some lengthBytes, rest) =>
      let length := bigEndianValue lengthBytes
      if length > maxTunnelHeaderSize then
        (.error .tooLong, rest)
      else
        match readExact length rest with
        | (none, left) => (.error .unexpectedEof, left)
        | (some buffer, left) =>
            match (decode buffer : Option TunnelHeader) with
            | none => (.error .undecodable, left)
            | some header => (.ok header, left)

/-! ## How much is read -/

/-- Whatever comes of it, at most the count is taken off the stream. -/
theorem readExact_takes (count : Nat) (stream : ByteStream) :
    ∃ used, stream.flatten = used ++ (readExact count stream).2.flatten ∧
      used.length ≤ count ∧
        ∀ bytes, (readExact count stream).1 = some bytes →
          bytes = used ∧ used.length = count := by
  induction stream generalizing count with
  | nil =>
      cases count with
      | zero => exact ⟨[], rfl, le_refl 0, by simp [readExact]⟩
      | succ count => exact ⟨[], rfl, Nat.zero_le _, by simp [readExact]⟩
  | cons chunk rest induction =>
      cases count with
      | zero => exact ⟨[], rfl, le_refl 0, by simp [readExact]⟩
      | succ count =>
          unfold readExact
          split_ifs with empty within
          · subst empty
            exact ⟨[], rfl, Nat.zero_le _, by simp⟩
          · have exact : (chunk.take (count + 1)).length = count + 1 :=
              List.length_take_of_le within.le
            refine ⟨chunk.take (count + 1), ?_, exact.le, ?_⟩
            · simp only [List.flatten_cons]
              rw [← List.append_assoc, List.take_append_drop]
            · intro bytes same
              cases same
              exact ⟨rfl, exact⟩
          · rcases induction (count + 1 - chunk.length) with
              ⟨used, whole, few, all⟩
            refine ⟨chunk ++ used, ?_, ?_, ?_⟩
            · rw [List.flatten_cons, whole, List.append_assoc]
              split <;> simp_all
            · rw [List.length_append]
              omega
            · intro bytes same
              split at same
              · rename_i read left result
                cases same
                rcases all read (by rw [result]) with ⟨rfl, size⟩
                refine ⟨rfl, ?_⟩
                rw [List.length_append]
                omega
              · cases same

/-- The chunks do not matter as long as none of them ends the stream. -/
theorem readExact_of_filled {count : Nat} {stream : ByteStream}
    (filled : ∀ chunk ∈ stream, chunk ≠ [])
    (enough : count ≤ stream.flatten.length) :
    ∃ left, readExact count stream =
        (some (stream.flatten.take count), left) ∧
      left.flatten = stream.flatten.drop count ∧
        ∀ chunk ∈ left, chunk ≠ [] := by
  induction stream generalizing count with
  | nil =>
      cases Nat.le_zero.mp enough
      exact ⟨[], rfl, rfl, filled⟩
  | cons chunk rest induction =>
      cases count with
      | zero => exact ⟨chunk :: rest, rfl, rfl, filled⟩
      | succ count =>
          have nonempty := filled chunk List.mem_cons_self
          unfold readExact
          rw [if_neg nonempty, List.flatten_cons]
          rw [List.flatten_cons, List.length_append] at enough
          split_ifs with within
          · refine ⟨chunk.drop (count + 1) :: rest, ?_, ?_, ?_⟩
            · rw [List.take_append_of_le_length within.le]
            · rw [List.flatten_cons, List.drop_append_of_le_length within.le]
            · intro other member
              rcases List.mem_cons.mp member with rfl | later
              · intro empty
                have size := congrArg List.length empty
                rw [List.length_drop, List.length_nil] at size
                omega
              · exact filled other (List.mem_cons_of_mem chunk later)
          · have beyond : chunk.length ≤ count + 1 := Nat.le_of_not_lt within
            rcases induction
              (fun other member =>
                filled other (List.mem_cons_of_mem chunk member))
              (show count + 1 - chunk.length ≤ rest.flatten.length by omega)
              with ⟨left, result, remaining, others⟩
            refine ⟨left, ?_, ?_, others⟩
            · rw [result, List.take_append, List.take_of_length_le beyond]
            · rw [remaining, List.drop_append, List.drop_of_length_le beyond,
                List.nil_append]

/-! ## Writing and reading back -/

theorem bigEndianValue_u16Bytes {number : Nat} (small : number < 2 ^ 16) :
    bigEndianValue (u16Bytes number) = number := by
  have high : (UInt8.ofNat (number / 256)).toNat = number / 256 :=
    UInt8.toNat_ofNat_of_lt' (show number / 256 < 256 by omega)
  simp only [bigEndianValue, u16Bytes, List.foldl_cons, List.foldl_nil, high,
    UInt8.toNat_ofNat']
  omega

/-- A header is sent exactly when its encoding is short enough. -/
theorem writeHeader_cases (header : TunnelHeader) (sent : List UInt8) :
    (∃ bytes, encode header = some bytes ∧
        bytes.length ≤ maxTunnelHeaderSize ∧
          writeHeader header sent =
            (sent ++ u16Bytes bytes.length ++ bytes, .ok ())) ∨
      ((∀ bytes, encode header = some bytes →
          maxTunnelHeaderSize < bytes.length) ∧
        ∃ error, writeHeader header sent = (sent, .error error)) := by
  have limit : maxTunnelHeaderSize = 1024 := rfl
  unfold writeHeader
  cases encoded : (encode header : Option (List UInt8)) with
  | none => exact Or.inr ⟨by simp, _, rfl⟩
  | some bytes =>
      by_cases short : bytes.length ≤ maxTunnelHeaderSize
      · have fits : bytes.length < 2 ^ 16 := by omega
        refine Or.inl ⟨bytes, rfl, short, ?_⟩
        simp only [if_pos fits, Option.filter_some, decide_eq_true short,
          if_true]
      · refine Or.inr ⟨?_, ?_⟩
        · rintro _ ⟨⟩
          exact Nat.lt_of_not_le short
        · by_cases fits : bytes.length < 2 ^ 16
          · simp only [if_pos fits, Option.filter_some, short, decide_false,
              Bool.false_eq_true, if_false]
            exact ⟨_, rfl⟩
          · simp only [if_neg fits, Option.filter_none]
            exact ⟨_, rfl⟩

/-- However the stream goes on, only what the frame announces is read. -/
theorem readHeaderFrom_takes (stream : ByteStream) :
    ∃ used, stream.flatten = used ++ (readHeaderFrom stream).2.flatten ∧
      used.length ≤ 2 + maxTunnelHeaderSize := by
  rcases readExact_takes 2 stream with ⟨front, whole, few, -⟩
  unfold readHeaderFrom
  generalize readExact 2 stream = read at whole ⊢
  rcases read with ⟨_ | lengthBytes, rest⟩
  · exact ⟨front, whole, few.trans (Nat.le_add_right 2 _)⟩
  · simp only at whole ⊢
    split
    · exact ⟨front, whole, few.trans (Nat.le_add_right 2 _)⟩
    · rename_i short
      rcases readExact_takes (bigEndianValue lengthBytes) rest with
        ⟨back, remaining, bounded, -⟩
      refine ⟨front ++ back, ?_, ?_⟩
      · generalize readExact (bigEndianValue lengthBytes) rest = read
          at remaining ⊢
        rw [whole, remaining, ← List.append_assoc]
        rcases read with ⟨_ | buffer, left⟩
        · rfl
        · simp only
          split <;> rfl
      · rw [List.length_append]
        exact Nat.add_le_add few (bounded.trans (Nat.le_of_not_lt short))

/-- With two bytes there, the announced length decides how the read goes on. -/
theorem readHeaderFrom_of_filled {stream : ByteStream} {high low : UInt8}
    {body : List UInt8} (filled : ∀ chunk ∈ stream, chunk ≠ [])
    (arrived : stream.flatten = high :: low :: body) :
    ∃ rest : ByteStream, rest.flatten = body ∧
      (∀ chunk ∈ rest, chunk ≠ []) ∧
        let length := high.toNat * 256 + low.toNat
        readHeaderFrom stream =
          if length > maxTunnelHeaderSize then
            (.error .tooLong, rest)
          else
            match readExact length rest with
            | (none, left) => (.error .unexpectedEof, left)
            | (some buffer, left) =>
                match (decode buffer : Option TunnelHeader) with
                | none => (.error .undecodable, left)
                | some header => (.ok header, left) := by
  have enough : 2 ≤ stream.flatten.length := by simp [arrived]
  rcases readExact_of_filled filled enough with
    ⟨rest, result, remaining, others⟩
  rw [arrived] at result remaining
  refine ⟨rest, remaining, others, ?_⟩
  have value : bigEndianValue [high, low] =
      high.toNat * 256 + low.toNat := by
    simp [bigEndianValue]
  rw [readHeaderFrom, result]
  simp only [List.take_succ_cons, List.take_zero, value]

/-- Read back, a sent header leaves exactly what follows it. -/
theorem readHeaderFrom_of_encoded {header : TunnelHeader}
    {bytes payload : List UInt8} {stream : ByteStream}
    (encoded : encode header = some bytes)
    (short : bytes.length ≤ maxTunnelHeaderSize)
    (filled : ∀ chunk ∈ stream, chunk ≠ [])
    (arrived : stream.flatten = u16Bytes bytes.length ++ bytes ++ payload) :
    ∃ left, readHeaderFrom stream = (.ok header, left) ∧
      left.flatten = payload := by
  have limit : maxTunnelHeaderSize = 1024 := rfl
  have small : bytes.length < 2 ^ 16 := by omega
  have value := bigEndianValue_u16Bytes small
  simp only [u16Bytes, bigEndianValue, List.foldl_cons, List.foldl_nil,
    Nat.zero_mul, Nat.zero_add] at value
  rcases readHeaderFrom_of_filled filled arrived with
    ⟨rest, body, others, result⟩
  rw [value] at result
  have enough : bytes.length ≤ rest.flatten.length := by simp [body]
  rcases readExact_of_filled others enough with ⟨left, read, remaining, -⟩
  have front : rest.flatten.take bytes.length = bytes := by simp [body]
  have back : rest.flatten.drop bytes.length = payload := by simp [body]
  have decoded : decode bytes = some header :=
    ((roundTrips TunnelHeader).decode_encode header bytes encoded).2
  refine ⟨left, ?_, remaining.trans back⟩
  simp only [result, read, front, decoded, if_neg (Nat.not_lt.mpr short)]

/-- What it means that the opening frame is framed exactly. -/
structure FramedExactly (header : TunnelHeader) : Prop where
  sent_iff : ∀ sent, (writeHeader header sent).2 = .ok () ↔
    ∃ bytes, encode header = some bytes ∧
      bytes.length ≤ maxTunnelHeaderSize
  refused : ∀ sent error, (writeHeader header sent).2 = .error error →
    (writeHeader header sent).1 = sent
  read_back : ∀ (payload : List UInt8) (stream : ByteStream),
    (writeHeader header []).2 = .ok () →
      (∀ chunk ∈ stream, chunk ≠ []) →
        stream.flatten = (writeHeader header []).1 ++ payload →
          ∃ left, readHeaderFrom stream = (.ok header, left) ∧
            left.flatten = payload

theorem framedExactly (header : TunnelHeader) : FramedExactly header := by
  constructor
  · intro sent
    rcases writeHeader_cases header sent with
      ⟨bytes, encoded, short, result⟩ | ⟨long, error, result⟩
    · exact iff_of_true (by rw [result]) ⟨bytes, encoded, short⟩
    · apply iff_of_false
      · rw [result]
        simp
      · rintro ⟨bytes, encoded, short⟩
        exact absurd short (Nat.not_le.mpr (long bytes encoded))
  · intro sent error failed
    rcases writeHeader_cases header sent with
      ⟨bytes, encoded, short, result⟩ | ⟨long, other, result⟩
    · rw [result] at failed
      cases failed
    · rw [result]
  · intro payload stream succeeded filled arrived
    rcases writeHeader_cases header [] with
      ⟨bytes, encoded, short, result⟩ | ⟨long, error, result⟩
    · rw [result, List.nil_append] at arrived
      exact readHeaderFrom_of_encoded encoded short filled arrived
    · rw [result] at succeeded
      cases succeeded

/--
The opening frame is framed exactly, and whatever the stream holds, a read of
the header stays within its bounds.
-/
theorem tunnel_preamble_framed :
    (∀ header, FramedExactly header) ∧
      (∀ stream, ∃ used,
        stream.flatten = used ++ (readHeaderFrom stream).2.flatten ∧
          used.length ≤ 2 + maxTunnelHeaderSize) ∧
        ∀ (stream : ByteStream) (high low : UInt8) (body : List UInt8),
          (∀ chunk ∈ stream, chunk ≠ []) →
            stream.flatten = high :: low :: body →
              high.toNat * 256 + low.toNat > maxTunnelHeaderSize →
                ∃ left, readHeaderFrom stream = (.error .tooLong, left) ∧
                  left.flatten = body := by
  refine ⟨framedExactly, readHeaderFrom_takes, ?_⟩
  intro stream high low body filled arrived long
  rcases readHeaderFrom_of_filled filled arrived with
    ⟨rest, remaining, -, result⟩
  exact ⟨rest, result.trans (if_pos long), remaining⟩

/-! ## The staged reader of a serve task -/

/--
A serve task that looks again at everything received after each chunk decides
as the reads on the stream do.
-/
theorem readHeader_flatten {stream : ByteStream}
    (filled : ∀ chunk ∈ stream, chunk ≠ []) :
    readHeader stream.flatten =
      match readHeaderFrom stream with
      | (.ok header, left) => .complete header left.flatten
      | (.error .unexpectedEof, _) => .incomplete
      | (.error _, _) => .failed := by
  have short : stream.flatten.length < 2 →
      ∃ left, readHeaderFrom stream = (.error .unexpectedEof, left) := by
    intro few
    rcases readExact_takes 2 stream with ⟨used, whole, -, all⟩
    unfold readHeaderFrom
    generalize readExact 2 stream = read at whole all ⊢
    rcases read with ⟨_ | bytes, rest⟩
    · exact ⟨rest, rfl⟩
    · have size := (all bytes rfl).2
      rw [whole, List.length_append] at few
      omega
  match arrived : stream.flatten with
  | [] =>
      rcases short (by simp [arrived]) with ⟨left, result⟩
      rw [result]
      rfl
  | [_] =>
      rcases short (by simp [arrived]) with ⟨left, result⟩
      rw [result]
      rfl
  | high :: low :: body =>
      rcases readHeaderFrom_of_filled filled arrived with
        ⟨rest, rfl, others, result⟩
      rw [result, readHeader]
      by_cases long :
          high.toNat * 256 + low.toNat > maxTunnelHeaderSize
      · rw [if_pos long, if_pos long]
      · rw [if_neg long, if_neg long]
        by_cases enough :
            high.toNat * 256 + low.toNat ≤ rest.flatten.length
        · rcases readExact_of_filled others enough with
            ⟨left, read, remaining, -⟩
          rw [read, if_neg (Nat.not_lt.mpr enough), ← remaining]
          simp only
          rw [← decode_tunnelHeader]
          cases (decode (rest.flatten.take _) : Option TunnelHeader) with
          | none => rfl
          | some header => rfl
        · rcases readExact_takes (high.toNat * 256 + low.toNat) rest with
            ⟨used, whole, -, all⟩
          rw [if_pos (Nat.lt_of_not_le enough)]
          generalize readExact (high.toNat * 256 + low.toNat) rest = read
            at whole all ⊢
          rcases read with ⟨_ | bytes, left⟩
          · rfl
          · have size := (all bytes rfl).2
            rw [whole, List.length_append] at enough
            omega

end NuxAuth.Core
