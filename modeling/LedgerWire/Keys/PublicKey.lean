import LedgerWire.Ed25519.Signing
import LedgerWire.StrKey
import LedgerWire.Wire.Codec

/-!
Contract: public keys and the signatures made with their secrets.

Any 32 bytes are a public key; one that is no point of the curve verifies nothing. A signature has
at most 64 bytes, of which the wire carries as many as there are, and a hint is the last four bytes
of the key that signed.

Owns:
- `PublicKey`, its text and wire forms, and verification;
- `Signature`, `SignatureHint` and `DecoratedSignature`.

Does not own: secret keys.
-/

namespace LedgerWire

open Wire

structure PublicKey where
  key : FixedBytes 32
  deriving DecidableEq

namespace PublicKey

def bytes (key : PublicKey) : Bytes := key.key.bytes

def ofBytes (bytes : Bytes) : Except Failure PublicKey :=
  if h : bytes.length = 32 then .ok ⟨⟨bytes, h⟩⟩
  else .error (.fault (Fault.of .invalidPublicKey
    s!"public key must be 32 bytes, got {bytes.length}" [] none))

def ofAccountId (text : String) : Except Failure PublicKey :=
  StrKey.decode .accountId text >>= ofBytes

def accountId (key : PublicKey) : String := StrKey.encode .accountId key.bytes

def describe (key : PublicKey) : String := s!"PublicKey.from_account_id('{key.accountId}')"

/-- The bytes of a key, without the number of the kind of key. -/
def bareCodec : Codec PublicKey := (Codec.fixedBytes 32).convert (⟨·⟩) (·.key)

/-- The wire form: the number of the only kind of key, then the bytes. -/
def codec : Codec PublicKey :=
  Codec.union Codec.int32 (fun _ => 0)
    (fun kind => if kind = 0 then some bareCodec else none)
    (fun kind => Failure.xdr s!"unknown public key type: {kind}")

end PublicKey

/-- A signature, of at most 64 bytes. -/
structure Signature where
  bytes : Bytes
  length_le : bytes.length ≤ 64

namespace Signature

instance : DecidableEq Signature := fun a b =>
  decidable_of_iff (a.bytes = b.bytes)
    ⟨fun h => by cases a; cases b; cases h; rfl, fun h => congrArg bytes h⟩

def ofBytes (bytes : Bytes) : Except Failure Signature :=
  if h : bytes.length ≤ 64 then .ok ⟨bytes, h⟩
  else .error (Failure.withDetail .invalidSignature "length" (.number bytes.length))

def describe (signature : Signature) : String := s!"Signature('{signature.bytes.toHex}')"

def codec : Codec Signature := (Codec.bytes (some 64)).refine ofBytes (·.bytes)

end Signature

/-- Whether a signature is one of this key over this message. -/
def PublicKey.verify (key : PublicKey) (signature : Signature) (message : Bytes) : Bool :=
  Ed25519.verify key.bytes signature.bytes message

/-- Four bytes that tell which key signed. -/
structure SignatureHint where
  hint : FixedBytes 4
  deriving DecidableEq

namespace SignatureHint

def bytes (hint : SignatureHint) : Bytes := hint.hint.bytes

def ofBytes (bytes : Bytes) : Except Failure SignatureHint :=
  if h : bytes.length = 4 then .ok ⟨⟨bytes, h⟩⟩
  else .error (Failure.withDetail .invalidSignatureHint "length" (.number bytes.length))

def describe (hint : SignatureHint) : String := s!"SignatureHint('{hint.bytes.toHex}')"

def codec : Codec SignatureHint := (Codec.fixedBytes 4).convert (⟨·⟩) (·.hint)

end SignatureHint

/-- The last four bytes of a key. -/
def PublicKey.hint (key : PublicKey) : SignatureHint :=
  ⟨⟨key.bytes.drop 28, by simp [PublicKey.bytes, key.key.length_eq]⟩⟩

/-- A signature with the hint of the key that made it. -/
structure DecoratedSignature where
  hint : SignatureHint
  signature : Signature
  deriving DecidableEq

namespace DecoratedSignature

def describe (signature : DecoratedSignature) : String :=
  s!"DecoratedSignature({signature.hint.describe}, {signature.signature.describe})"

def codec : Codec DecoratedSignature :=
  (SignatureHint.codec.pair Signature.codec).convert
    (fun parts => ⟨parts.1, parts.2⟩)
    (fun signature => (signature.hint, signature.signature))

end DecoratedSignature

/-- What a caller may give where a public key is wanted. -/
inductive KeySource where
  | key (value : PublicKey)
  | text (value : String)
  | foreign (value : ForeignValue)

/-- The key that was given: a text as an account id. -/
def KeySource.toPublicKey : KeySource → Except Failure PublicKey
  | .key value => .ok value
  | .text value => PublicKey.ofAccountId value
  | .foreign value =>
    .error
      (.fault (Fault.of .invalidPublicKey s!"cannot convert {value.name} to PublicKey" [] none))

end LedgerWire
