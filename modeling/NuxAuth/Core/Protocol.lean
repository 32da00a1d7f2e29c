import NuxAuth.Lib.Bincode

/-!
# Messages of the authentication and tunnel protocols

The messages a Client and a Guard exchange, the octets a challenge answer
signs, and the opening frame of a tunnel.  Times are Unix seconds in 64 bits;
nonces and SHA-256 fingerprints are arrays of 32 bytes.
-/

namespace NuxAuth.Core

open NuxAuth.Lib.Bincode

/-- `NONCE_LEN`. -/
def nonceLen : Nat := 32

/-- `SHA256_LEN`. -/
def sha256Len : Nat := 32

/-- `MAX_MESSAGE_SIZE`. -/
def maxMessageSize : Nat := 64 * 1024

/-- `MAX_TUNNEL_HEADER_SIZE`. -/
def maxTunnelHeaderSize : Nat := 1024

/-- The single byte a Guard writes once the local service is reached. -/
def tunnelAck : UInt8 := 0x01

/-- What a challenge asks to be signed. -/
abbrev Nonce := Vector UInt8 nonceLen
/-- The fingerprint of a binary. -/
abbrev Sha256 := Vector UInt8 sha256Len

/-- `u64::abs_diff`. -/
def absDiff (left right : UInt64) : Nat :=
  (left.toNat - right.toNat) + (right.toNat - left.toNat)

/-- `u64::to_be_bytes`. -/
def toBeBytes (number : UInt64) : Vector UInt8 8 :=
  #v[(number >>> 56).toUInt8, (number >>> 48).toUInt8,
    (number >>> 40).toUInt8, (number >>> 32).toUInt8,
    (number >>> 24).toUInt8, (number >>> 16).toUInt8,
    (number >>> 8).toUInt8, number.toUInt8]

/-- The octets covered by a challenge answer: `nonce ‖ timestamp`. -/
def challengePayload (nonce : Nonce) (timestamp : UInt64) :
    Vector UInt8 (nonceLen + 8) :=
  nonce ++ toBeBytes timestamp

/-- The signed octets determine the nonce. -/
theorem challengePayload_nonce {left right : Nonce}
    {leftTime rightTime : UInt64}
    (same : challengePayload left leftTime =
      challengePayload right rightTime) :
    left = right :=
  Vector.append_inj_left same

/-- What a client may send. -/
inductive NuxRequest where
  | handshakeInit
  | challengeAnswer (signature : List UInt8) (timestamp : UInt64)
deriving DecidableEq

/-- What a Guard may answer. -/
inductive NuxResponse where
  | challenge (nonce : Nonce) (timestamp : UInt64)
  | accessGranted (roles : List String)
  | denied
deriving DecidableEq

/-! ## The opening frame of a tunnel -/

/-- The first message of a tunnel stream. -/
structure TunnelHeader where
  service : String
  binarySha256 : Sha256
deriving DecidableEq

/-- So many bytes, neither more nor fewer. -/
def readArray (size : Nat) : Reader (Vector UInt8 size) := do
  let bytes ← take size
  if exact : bytes.length = size then
    return ⟨bytes.toArray, by simpa using exact⟩
  else
    failure

/-- The service and the fingerprint. -/
def readTunnelHeader : Reader TunnelHeader := do
  let service ← readString
  let binarySha256 ← readArray sha256Len
  return ⟨service, binarySha256⟩

/-- `decode::<TunnelHeader>`. -/
def decodeTunnelHeader (bytes : List UInt8) : Option TunnelHeader :=
  decodeAll readTunnelHeader maxMessageSize bytes

/-- The bytes of a header. -/
def tunnelHeaderBytes (header : TunnelHeader) : List UInt8 :=
  stringBytes header.service ++ header.binarySha256.toList

/-- `encode::<TunnelHeader>`. -/
def encodeTunnelHeader (header : TunnelHeader) : Option (List UInt8) :=
  encodeBounded maxMessageSize (tunnelHeaderBytes header)

theorem reads_readArray {size : Nat} (array : Vector UInt8 size) :
    Reads (readArray size) array array.toList := by
  rw [← List.append_nil array.toList]
  apply Reads.bind (Reads.takeOf (by simp))
  have same : (⟨array.toList.toArray, by simp⟩ : Vector UInt8 size) =
      array := by
    apply Vector.toArray_inj.mp
    exact Array.toArray_toList
  rw [dif_pos (by simp), same]
  exact Reads.pure array

theorem length_utf8Bytes_le_tunnelHeaderBytes (header : TunnelHeader) :
    (utf8Bytes header.service).length ≤
      (tunnelHeaderBytes header).length := by
  simp only [tunnelHeaderBytes, stringBytes, List.length_append]
  omega

end NuxAuth.Core
