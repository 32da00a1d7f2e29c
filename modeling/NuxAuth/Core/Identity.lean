import NuxAuth.Core.Protocol

/-!
# What the node uses of libp2p identities

A `PeerId` is a multihash; the node compares its bytes, reads the public key
inlined in it, and verifies signatures with that key.  These operations belong
to libp2p and stay abstract; only the fact that the byte form determines the
peer is recorded.
-/

namespace NuxAuth.Core

/-- The operations of libp2p on peer identities and their keys. -/
class PeerIdentity (PeerId : Type) where
  PublicKey : Type
  /-- `PeerId::to_bytes` -/
  toBytes : PeerId → List UInt8
  toBytes_injective : Function.Injective toBytes
  /-- `Multihash::code` -/
  multihashCode : PeerId → UInt64
  /-- `Multihash::digest` -/
  multihashDigest : PeerId → List UInt8
  /-- `PublicKey::try_decode_protobuf` -/
  tryDecodeProtobuf : List UInt8 → Option PublicKey
  /-- `PublicKey::verify` -/
  verify : PublicKey → List UInt8 → List UInt8 → Bool

/-- The multihash code of an identity whose key is inlined. -/
def identityMultihashCode : UInt64 := 0x00

variable {PeerId : Type} [PeerIdentity PeerId]

/-- The public key inlined in a `PeerId`. -/
def publicKeyOf (peer : PeerId) :
    Option (PeerIdentity.PublicKey PeerId) :=
  if PeerIdentity.multihashCode peer = identityMultihashCode then
    PeerIdentity.tryDecodeProtobuf (PeerIdentity.multihashDigest peer)
  else
    none

/-! ## A small instance

One byte is the peer and its key, and a signature repeats the key and the
payload.  Runs of the model on concrete inputs are computed with it.
-/

/-- Peers that are told apart by one byte. -/
structure BytePeer where
  byte : UInt8
deriving DecidableEq

instance : PeerIdentity BytePeer where
  PublicKey := UInt8
  toBytes peer := [peer.byte]
  toBytes_injective := by
    rintro ⟨left⟩ ⟨right⟩ same
    cases same
    rfl
  multihashCode _ := identityMultihashCode
  multihashDigest peer := [peer.byte]
  tryDecodeProtobuf bytes := bytes.head?
  verify key payload signature := signature = key :: payload

/-- A signature is the payload behind the byte of the signer. -/
def BytePeer.sign (peer : BytePeer) (payload : List UInt8) : List UInt8 :=
  peer.byte :: payload

end NuxAuth.Core
