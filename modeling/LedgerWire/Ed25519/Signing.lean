import LedgerWire.Ed25519.Curve
import LedgerWire.Hash.Sha2

/-!
Contract: Ed25519 signatures of RFC 8032: the public key of a seed, deterministic signing, and
verification that refuses a second half not below the group order.

Owns:
- `publicKey`, `sign` and `verify` on byte strings.

Does not own: the typed keys of this library.
-/

namespace LedgerWire.Ed25519

/-- A seed spread out: the secret scalar, and the key from which each message's nonce is derived. -/
structure ExpandedSeed where
  scalar : Nat
  nonceKey : Bytes

/-- The scalar is the lower half of the hash with its lowest three bits cleared, bit 255 cleared
and bit 254 set; the upper half is the nonce key. -/
def expand (seed : Bytes) : ExpandedSeed :=
  let hash := sha512 seed
  let lower := Bytes.toNatLE (hash.take 32)
  ⟨lower % 2 ^ 254 / 8 * 8 + 2 ^ 254, hash.drop 32⟩

/-- A byte string hashed to a scalar. -/
def hashToScalar (bytes : Bytes) : Nat :=
  Bytes.toNatLE (sha512 bytes) % order

def publicKey (seed : Bytes) : Bytes :=
  (Point.base.scale (expand seed).scalar).encode

/-- The signature of a message: the encoded nonce point, then the response scalar. -/
def sign (seed message : Bytes) : Bytes :=
  let expanded := expand seed
  let key := (Point.base.scale expanded.scalar).encode
  let nonce := hashToScalar (expanded.nonceKey ++ message)
  let commitment := (Point.base.scale nonce).encode
  let challenge := hashToScalar (commitment ++ key ++ message)
  commitment ++ Bytes.ofNatLE 32 ((nonce + challenge * expanded.scalar) % order)

/-- Whether a signature is one of this key over this message. -/
def verify (key signature message : Bytes) : Bool :=
  let commitment := signature.take 32
  let response := Bytes.toNatLE (signature.drop 32)
  if signature.length = 64 && response < order then
    match Point.decode? key with
    | none => false
    | some point =>
      let challenge := hashToScalar (commitment ++ key ++ message)
      ((Point.base.scale response).add (point.negate.scale challenge)).encode == commitment
  else
    false

@[simp] theorem length_publicKey (seed : Bytes) : (publicKey seed).length = 32 := by
  simp [publicKey]

@[simp] theorem length_sign (seed message : Bytes) : (sign seed message).length = 64 := by
  simp [sign]

end LedgerWire.Ed25519
