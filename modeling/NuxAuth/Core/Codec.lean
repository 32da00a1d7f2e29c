import NuxAuth.Core.Protocol

/-!
# The codec of the authentication protocol

`encode` and `decode` are the bounded bincode of every message, and
`read_bounded` takes a message off a stream without ever reading more than one
byte past the limit.  The same functions frame the opening header of a tunnel.

A message type comes with its reader, its bytes, and the two facts that make
them inverse to each other: the bytes are read back, and whatever is read has
those bytes as its shortest form.
-/

namespace NuxAuth.Core

open NuxAuth.Lib.Bincode

/-- A type that bincode serializes and deserializes. -/
class Wire (Message : Type) where
  read : Reader Message
  bytes : Message → List UInt8
  reads : ∀ message, (bytes message).length < 2 ^ 64 →
    Reads read message (bytes message)
  accepts : Accepts read fun message encoded => encoded = bytes message

section Codec

variable {Message : Type} [Wire Message]

/-- The size is computed before anything is written. -/
def encode (message : Message) : Option (List UInt8) :=
  encodeBounded maxMessageSize (Wire.bytes message)

/-- The whole of the bytes must be the message, under the same limit. -/
def decode (bytes : List UInt8) : Option Message :=
  decodeAll Wire.read maxMessageSize bytes

/-- What `read_to_end` returns of a stream cut off one byte past the limit. -/
def readBounded (stream : List UInt8) : Option (List UInt8) :=
  let buffer := stream.take (maxMessageSize + 1)
  if buffer.length > maxMessageSize then none else some buffer

/-- `read_request` and `read_response`. -/
def readMessage (stream : List UInt8) : Option Message :=
  (readBounded stream).bind decode

end Codec

/-! ## The messages -/

/-- A number of 64 bits. -/
def readUInt64 : Reader UInt64 := do
  return UInt64.ofNat (← readVarint)

/-- Its bytes. -/
def uint64Bytes (number : UInt64) : List UInt8 :=
  varint number.toNat

theorem reads_readUInt64 (number : UInt64) :
    Reads readUInt64 number (uint64Bytes number) := by
  have reads := Reads.map UInt64.ofNat (Reads.varint number.toNat_lt)
  rwa [UInt64.ofNat_toNat] at reads

theorem accepts_readUInt64 :
    Accepts readUInt64 fun number encoded => encoded = uint64Bytes number := by
  apply (Accepts.map UInt64.ofNat Accepts.varint).mono
  rintro number encoded ⟨value, rfl, rfl, small⟩
  rw [uint64Bytes, UInt64.toNat_ofNat_of_lt' small]

theorem accepts_readArray (size : Nat) :
    Accepts (readArray size) fun array encoded => encoded = array.toList := by
  have checked : ∀ bytes : List UInt8,
      Accepts (if exact : bytes.length = size then
          return (⟨bytes.toArray, by simpa using exact⟩ : Vector UInt8 size)
        else
          failure)
        (fun array encoded => array.toList = bytes ∧ encoded = []) := by
    intro bytes
    split
    · rename_i exact
      apply (Accepts.pure _).mono
      rintro array encoded ⟨rfl, rfl⟩
      exact ⟨rfl, rfl⟩
    · exact Accepts.fails
  apply (Accepts.bind (Accepts.take size) checked).mono
  rintro array encoded ⟨bytes, front, back, ⟨rfl, -⟩, ⟨rfl, rfl⟩, rfl⟩
  exact List.append_nil _

namespace NuxRequest

/-- The request behind its tag. -/
def read : Reader NuxRequest := do
  match ← readTag with
  | 0 => return .handshakeInit
  | 1 =>
      let signature ← readList readByte
      let timestamp ← readUInt64
      return .challengeAnswer signature timestamp
  | _ => failure

/-- The bytes of a request. -/
def bytes : NuxRequest → List UInt8
  | .handshakeInit => varint 0
  | .challengeAnswer signature timestamp =>
      varint 1 ++
        (listBytes (fun byte => [byte]) signature ++ uint64Bytes timestamp)

end NuxRequest

namespace NuxResponse

/-- The response behind its tag. -/
def read : Reader NuxResponse := do
  match ← readTag with
  | 0 =>
      let nonce ← readArray nonceLen
      let timestamp ← readUInt64
      return .challenge nonce timestamp
  | 1 => return .accessGranted (← readList readString)
  | 2 => return .denied
  | _ => failure

/-- The bytes of a response. -/
def bytes : NuxResponse → List UInt8
  | .challenge nonce timestamp =>
      varint 0 ++ (nonce.toList ++ uint64Bytes timestamp)
  | .accessGranted roles => varint 1 ++ listBytes stringBytes roles
  | .denied => varint 2

end NuxResponse

/-- Neither the count nor an element outgrows the encoded sequence. -/
theorem length_le_listBytes {Value : Type} (write : Value → List UInt8)
    (values : List Value) (nonempty : ∀ value, write value ≠ []) :
    values.length ≤ (listBytes write values).length ∧
      ∀ value ∈ values,
        (write value).length ≤ (listBytes write values).length := by
  have flat : values.length ≤ (values.flatMap write).length ∧
      ∀ value ∈ values,
        (write value).length ≤ (values.flatMap write).length := by
    induction values with
    | nil => simp
    | cons first others induction =>
        rcases induction with ⟨count, each⟩
        have here := List.length_pos_iff.mpr (nonempty first)
        rw [List.flatMap_cons, List.length_append, List.length_cons]
        refine ⟨by omega, ?_⟩
        intro value member
        rcases List.mem_cons.mp member with rfl | later
        · omega
        · exact (each value later).trans (Nat.le_add_left _ _)
  rw [listBytes, List.length_append]
  refine ⟨by omega, ?_⟩
  intro value member
  exact (flat.2 value member).trans (Nat.le_add_left _ _)

theorem length_utf8Bytes_le_stringBytes (text : String) :
    (utf8Bytes text).length ≤ (stringBytes text).length := by
  rw [stringBytes, List.length_append]
  exact Nat.le_add_left _ _

theorem varint_ne_nil (number : Nat) : varint number ≠ [] := by
  unfold varint
  split_ifs <;> simp

theorem stringBytes_ne_nil (text : String) : stringBytes text ≠ [] := by
  simp [stringBytes, varint_ne_nil]

instance : Wire NuxRequest where
  read := NuxRequest.read
  bytes := NuxRequest.bytes
  reads := by
    intro message short
    cases message with
    | handshakeInit =>
        rw [NuxRequest.bytes, ← List.append_nil (varint 0)]
        exact Reads.bind (Reads.tag (by decide)) (Reads.pure _)
    | challengeAnswer signature timestamp =>
        rw [NuxRequest.bytes, List.length_append, List.length_append] at short
        have count := (length_le_listBytes (fun byte : UInt8 => [byte])
          signature (by simp)).1
        apply Reads.bind (Reads.tag (by decide))
        apply Reads.bind (Reads.list (by omega) fun byte _ => Reads.byte byte)
        exact Reads.map (NuxRequest.challengeAnswer signature)
          (reads_readUInt64 timestamp)
  accepts := by
    have body : ∀ tag, Accepts (match tag with
        | 0 => return .handshakeInit
        | 1 => do
            let signature ← readList readByte
            let timestamp ← readUInt64
            return .challengeAnswer signature timestamp
        | _ => failure : Reader NuxRequest)
        (fun message encoded =>
          varint tag ++ encoded = NuxRequest.bytes message) := by
      intro tag
      split
      · apply (Accepts.pure _).mono
        rintro message encoded ⟨rfl, rfl⟩
        rfl
      · apply (Accepts.bind (Accepts.list Accepts.byte) fun signature =>
          Accepts.map (NuxRequest.challengeAnswer signature)
            accepts_readUInt64).mono
        rintro message encoded ⟨signature, front, back, ⟨rfl, -⟩,
          ⟨timestamp, rfl, rfl⟩, rfl⟩
        rfl
      · exact Accepts.fails
    apply (Accepts.bind Accepts.tag body).mono
    rintro message encoded ⟨tag, front, back, ⟨rfl, -⟩, same, rfl⟩
    exact same

instance : Wire NuxResponse where
  read := NuxResponse.read
  bytes := NuxResponse.bytes
  reads := by
    intro message short
    cases message with
    | challenge nonce timestamp =>
        apply Reads.bind (Reads.tag (by decide))
        apply Reads.bind (reads_readArray nonce)
        exact Reads.map (NuxResponse.challenge nonce)
          (reads_readUInt64 timestamp)
    | accessGranted roles =>
        rw [NuxResponse.bytes, List.length_append] at short
        have bounds := length_le_listBytes stringBytes roles
          stringBytes_ne_nil
        apply Reads.bind (Reads.tag (by decide))
        apply Reads.map NuxResponse.accessGranted
        apply Reads.list
        · have count := bounds.1
          omega
        · intro role member
          apply Reads.string
          have size := bounds.2 role member
          have inner := length_utf8Bytes_le_stringBytes role
          omega
    | denied =>
        rw [NuxResponse.bytes, ← List.append_nil (varint 2)]
        exact Reads.bind (Reads.tag (by decide)) (Reads.pure _)
  accepts := by
    have body : ∀ tag, Accepts (match tag with
        | 0 => do
            let nonce ← readArray nonceLen
            let timestamp ← readUInt64
            return .challenge nonce timestamp
        | 1 => return .accessGranted (← readList readString)
        | 2 => return .denied
        | _ => failure : Reader NuxResponse)
        (fun message encoded =>
          varint tag ++ encoded = NuxResponse.bytes message) := by
      intro tag
      split
      · apply (Accepts.bind (accepts_readArray nonceLen) fun nonce =>
          Accepts.map (NuxResponse.challenge nonce) accepts_readUInt64).mono
        rintro message encoded ⟨nonce, front, back, rfl,
          ⟨timestamp, rfl, rfl⟩, rfl⟩
        rfl
      · apply (Accepts.map NuxResponse.accessGranted (Accepts.list
          (Accepts.string.mono fun _ _ named => named.1))).mono
        rintro message encoded ⟨roles, rfl, rfl, -⟩
        rfl
      · apply (Accepts.pure _).mono
        rintro message encoded ⟨rfl, rfl⟩
        rfl
      · exact Accepts.fails
    apply (Accepts.bind Accepts.tag body).mono
    rintro message encoded ⟨tag, front, back, ⟨rfl, -⟩, same, rfl⟩
    exact same

instance : Wire TunnelHeader where
  read := readTunnelHeader
  bytes := tunnelHeaderBytes
  reads := by
    intro header short
    apply Reads.bind
    · apply Reads.string
      have bound := length_utf8Bytes_le_tunnelHeaderBytes header
      omega
    · exact Reads.map (TunnelHeader.mk header.service)
        (reads_readArray header.binarySha256)
  accepts := by
    apply (Accepts.bind Accepts.string fun service =>
      Accepts.map (TunnelHeader.mk service)
        (accepts_readArray sha256Len)).mono
    rintro header encoded ⟨service, front, back, ⟨rfl, -⟩,
      ⟨binarySha256, rfl, rfl⟩, rfl⟩
    rfl

/-- The opening frame of a tunnel uses the codec of the messages. -/
theorem encode_tunnelHeader (header : TunnelHeader) :
    encode header = encodeTunnelHeader header :=
  rfl

theorem decode_tunnelHeader (bytes : List UInt8) :
    decode bytes = decodeTunnelHeader bytes :=
  rfl

/-! ## Both directions of the wire format -/

/-- What holds of a message type whose wire format round-trips. -/
structure RoundTrips (Message : Type) [Wire Message] : Prop where
  encode_eq_none_iff : ∀ message : Message,
    encode message = none ↔
      maxMessageSize < (Wire.bytes message).length
  decode_encode : ∀ (message : Message) (bytes : List UInt8),
    encode message = some bytes →
      readBounded bytes = some bytes ∧ decode bytes = some message
  readMessage_encode : ∀ (message : Message) (bytes : List UInt8),
    encode message = some bytes → readMessage bytes = some message
  encode_decode : ∀ (bytes : List UInt8) (message : Message),
    decode bytes = some message →
      ∃ shortest, encode message = some shortest ∧
        shortest.length ≤ bytes.length ∧ decode shortest = some message
  oversized : ∀ bytes : List UInt8, maxMessageSize < bytes.length →
    readBounded bytes = none ∧ (decode bytes : Option Message) = none
  trailing : ∀ (bytes extra : List UInt8) (message : Message),
    decode bytes = some message → extra ≠ [] →
      (decode (bytes ++ extra) : Option Message) = none

theorem readBounded_eq_ite (stream : List UInt8) :
    readBounded stream =
      if stream.length ≤ maxMessageSize then some stream else none := by
  unfold readBounded
  by_cases within : stream.length ≤ maxMessageSize
  · have whole : stream.take (maxMessageSize + 1) = stream :=
      List.take_of_length_le (Nat.le_succ_of_le within)
    simp only [whole]
    rw [if_neg (Nat.not_lt.mpr within), if_pos within]
  · have beyond : maxMessageSize < stream.length := Nat.lt_of_not_le within
    have cut : (stream.take (maxMessageSize + 1)).length =
        maxMessageSize + 1 := List.length_take_of_le beyond
    simp only [cut]
    rw [if_pos (Nat.lt_succ_self _), if_neg within]

section RoundTrips

variable {Message : Type} [Wire Message] {message : Message}
    {bytes : List UInt8}

theorem encode_eq_some_iff :
    encode message = some bytes ↔
      (Wire.bytes message).length ≤ maxMessageSize ∧
        Wire.bytes message = bytes := by
  rw [encode, encodeBounded, Option.ite_none_right_eq_some,
    Option.some.injEq]

theorem decode_bytes
    (within : (Wire.bytes message).length ≤ maxMessageSize) :
    decode (Wire.bytes message) = some message := by
  have limit : maxMessageSize = 65536 := rfl
  exact decodeAll_of_reads (Wire.reads message (by omega)) within

/-- A message that is sent and read to the end of the stream arrives. -/
theorem readMessage_of_encode (encoded : encode message = some bytes) :
    readMessage bytes = some message := by
  rcases encode_eq_some_iff.mp encoded with ⟨within, rfl⟩
  rw [readMessage, readBounded_eq_ite, if_pos within]
  exact decode_bytes within

theorem decode_inv (decoded : decode bytes = some message) :
    bytes.length ≤ maxMessageSize ∧
      (Wire.bytes message).length ≤ bytes.length := by
  rcases exists_reads_of_decodeAll Wire.accepts decoded with
    ⟨within, -, shorter, -⟩
  exact ⟨within, shorter⟩

end RoundTrips

/-- Every message type of the wire round-trips. -/
theorem roundTrips (Message : Type) [Wire Message] : RoundTrips Message := by
  constructor
  · intro message
    rw [encode, encodeBounded, ite_eq_right_iff]
    simp
  · intro message bytes encoded
    rcases encode_eq_some_iff.mp encoded with ⟨within, rfl⟩
    rw [readBounded_eq_ite, if_pos within]
    exact ⟨rfl, decode_bytes within⟩
  · intro message bytes encoded
    exact readMessage_of_encode encoded
  · intro bytes message decoded
    rcases decode_inv decoded with ⟨within, shorter⟩
    have short := shorter.trans within
    exact ⟨Wire.bytes message, encode_eq_some_iff.mpr ⟨short, rfl⟩, shorter,
      decode_bytes short⟩
  · intro bytes beyond
    constructor
    · rw [readBounded_eq_ite, if_neg (Nat.not_le.mpr beyond)]
    · cases decoded : (decode bytes : Option Message) with
      | none => rfl
      | some message =>
          exact absurd (decode_inv decoded).1 (Nat.not_le.mpr beyond)
  · intro bytes extra message decoded more
    exact decodeAll_append_eq_none Wire.accepts decoded more

/-- Requests, responses and the opening frame of a tunnel round-trip, and the
functions for the frame are those of the messages. -/
theorem wire_round_trips :
    RoundTrips NuxRequest ∧ RoundTrips NuxResponse ∧
      RoundTrips TunnelHeader ∧
        (∀ header, encode header = encodeTunnelHeader header) ∧
          ∀ bytes, decode bytes = decodeTunnelHeader bytes :=
  ⟨roundTrips _, roundTrips _, roundTrips _, encode_tunnelHeader,
    decode_tunnelHeader⟩

end NuxAuth.Core
