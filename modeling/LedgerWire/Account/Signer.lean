import LedgerWire.Keys.PublicKey

/-!
Contract: who may sign for an account: a key, a transaction given by its hash, whoever reveals the
preimage of a hash, or a key over one payload; each with a weight.

Owns:
- `PreAuthTxHash`, `HashX`, `SignedPayload` and `SignerKey`;
- `Signer`, a key with its weight.

Does not own: how weights add up to an authorization.
-/

namespace LedgerWire

open Wire

/-- The hash of a transaction that is authorized ahead of time. -/
structure PreAuthTxHash where
  hash : FixedBytes 32
  deriving DecidableEq

namespace PreAuthTxHash

def bytes (key : PreAuthTxHash) : Bytes := key.hash.bytes

def ofBytes (bytes : Bytes) : Except Failure PreAuthTxHash :=
  if h : bytes.length = 32 then .ok ⟨⟨bytes, h⟩⟩
  else .error (Failure.withDetail .invalidPreAuthTx "length" (.number bytes.length))

def ofStrKey (text : String) : Except Failure PreAuthTxHash :=
  StrKey.decode .preAuthTx text >>= ofBytes

def strKey (key : PreAuthTxHash) : String := StrKey.encode .preAuthTx key.bytes

def describe (key : PreAuthTxHash) : String := s!"PreAuthTxHash('{key.bytes.toHex}')"

def codec : Codec PreAuthTxHash := (Codec.fixedBytes 32).convert (⟨·⟩) (·.hash)

end PreAuthTxHash

/-- The hash of a preimage; whoever reveals the preimage signs. -/
structure HashX where
  hash : FixedBytes 32
  deriving DecidableEq

namespace HashX

def bytes (key : HashX) : Bytes := key.hash.bytes

def ofBytes (bytes : Bytes) : Except Failure HashX :=
  if h : bytes.length = 32 then .ok ⟨⟨bytes, h⟩⟩
  else .error (Failure.withDetail .invalidHashX "length" (.number bytes.length))

def ofPreimage (preimage : Bytes) : HashX := ⟨⟨sha256 preimage, length_sha256 _⟩⟩

def ofStrKey (text : String) : Except Failure HashX :=
  StrKey.decode .sha256Hash text >>= ofBytes

def strKey (key : HashX) : String := StrKey.encode .sha256Hash key.bytes

def describe (key : HashX) : String := s!"HashX('{key.bytes.toHex}')"

def codec : Codec HashX := (Codec.fixedBytes 32).convert (⟨·⟩) (·.hash)

end HashX

/-- A key that signs one payload of at most 64 bytes. -/
structure SignedPayload where
  key : PublicKey
  payload : Bytes
  length_le : payload.length ≤ 64

namespace SignedPayload

instance : DecidableEq SignedPayload := fun a b =>
  decidable_of_iff (a.key = b.key ∧ a.payload = b.payload)
    ⟨fun ⟨hk, hp⟩ => by cases a; cases b; cases hk; cases hp; rfl,
      fun h => ⟨congrArg key h, congrArg payload h⟩⟩

def make (key : PublicKey) (payload : Bytes) : Except Failure SignedPayload :=
  if h : payload.length ≤ 64 then .ok ⟨key, payload, h⟩
  else .error (Failure.xdr "signed payload longer than 64 bytes")

def describe (signed : SignedPayload) : String :=
  s!"Ed25519SignedPayload({signed.key.describe}, '{signed.payload.toHex}')"

/-- The key without a number of its kind, then the payload. -/
def codec : Codec SignedPayload :=
  (PublicKey.bareCodec.pair (Codec.bytes (some 64))).refine
    (fun parts => make parts.1 parts.2)
    (fun signed => (signed.key, signed.payload))

end SignedPayload

inductive SignerKey where
  | ed25519 (key : PublicKey)
  | preAuthTx (hash : PreAuthTxHash)
  | hashX (hash : HashX)
  | signedPayload (signed : SignedPayload)
  deriving DecidableEq

namespace SignerKey

def kindNumber : SignerKey → Int
  | .ed25519 _ => 0
  | .preAuthTx _ => 1
  | .hashX _ => 2
  | .signedPayload _ => 3

def ed25519? : SignerKey → Option PublicKey
  | .ed25519 key => some key
  | _ => none

def preAuthTx? : SignerKey → Option PreAuthTxHash
  | .preAuthTx hash => some hash
  | _ => none

def hashX? : SignerKey → Option HashX
  | .hashX hash => some hash
  | _ => none

def signedPayload? : SignerKey → Option SignedPayload
  | .signedPayload signed => some signed
  | _ => none

def describe : SignerKey → String
  | .ed25519 key => s!"SignerKey({key.describe})"
  | .preAuthTx hash => s!"SignerKey({hash.describe})"
  | .hashX hash => s!"SignerKey({hash.describe})"
  | .signedPayload signed => s!"SignerKey({signed.describe})"

def kinds (kind : Int) : Option (Codec SignerKey) :=
  if kind = 0 then some (PublicKey.bareCodec.arm .ed25519 ed25519?)
  else if kind = 1 then some (PreAuthTxHash.codec.arm .preAuthTx preAuthTx?)
  else if kind = 2 then some (HashX.codec.arm .hashX hashX?)
  else if kind = 3 then some (SignedPayload.codec.arm .signedPayload signedPayload?)
  else none

def codec : Codec SignerKey :=
  Codec.union Codec.int32 kindNumber kinds
    (fun kind => Failure.xdr s!"unknown signer key type: {kind}")

end SignerKey

structure Signer where
  key : SignerKey
  weight : Int
  deriving DecidableEq

namespace Signer

def describe (signer : Signer) : String := s!"Signer({signer.key.describe}, {signer.weight})"

def codec : Codec Signer :=
  (SignerKey.codec.pair Codec.uint32).convert
    (fun parts => ⟨parts.1, parts.2⟩)
    (fun signer => (signer.key, signer.weight))

end Signer

end LedgerWire
