import LedgerWire.Keys.PublicKey
import LedgerWire.Network

/-!
Contract: secret keys. A secret key is its seed of 32 bytes; everything else is derived from it.

Owns:
- `SecretKey`, its text form, its public key, and signing.

Does not own: what is signed.
-/

namespace LedgerWire

structure SecretKey where
  seed : FixedBytes 32
  deriving DecidableEq

namespace SecretKey

def ofSeed (seed : Bytes) : Except Failure SecretKey :=
  if h : seed.length = 32 then .ok ⟨⟨seed, h⟩⟩
  else .error (.fault (Fault.of .invalidSeed s!"seed must be 32 bytes, got {seed.length}" [] none))

def ofSecretSeed (text : String) : Except Failure SecretKey :=
  StrKey.decode .secretSeed text >>= ofSeed

/-- The secret key of a network's root account, whose seed is the network id. -/
def ofNetwork (network : Network) : SecretKey := ⟨network.id⟩

def secretSeed (key : SecretKey) : String := StrKey.encode .secretSeed key.seed.bytes

def publicKey (key : SecretKey) : PublicKey :=
  ⟨⟨Ed25519.publicKey key.seed.bytes, Ed25519.length_publicKey _⟩⟩

def sign (key : SecretKey) (message : Bytes) : Signature :=
  ⟨Ed25519.sign key.seed.bytes message, by simp⟩

/-- The signature of a message with the hint of this key. -/
def signDecorated (key : SecretKey) (message : Bytes) : DecoratedSignature :=
  ⟨key.publicKey.hint, key.sign message⟩

/-- How a secret key is shown in descriptions: not at all. -/
def describe (_ : SecretKey) : String := "SecretKey(<redacted>)"

/-- How a secret key is shown together with its public key. -/
def describePair (key : SecretKey) : String := s!"KeyPair(public_key={key.publicKey.accountId})"

end SecretKey

end LedgerWire
