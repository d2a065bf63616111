import LedgerWire.Bytes.Base32
import LedgerWire.Fault
import LedgerWire.Hash.Crc16
import LedgerWire.Text.Ascii

/-!
Contract: the text form of keys and hashes. A version byte, the payload and a checksum are written
in base 32 without padding; the version byte fixes the first letter, so a reader sees what kind of
key a text is. Reading accepts exactly the texts that writing produces from payloads of the right
length.

Owns:
- the five kinds of key text and their version bytes;
- `StrKey.encode` and `StrKey.decode`, and the muxed form, which carries a number before the key.

Does not own: the types that the payloads belong to.
-/

namespace LedgerWire

namespace StrKey

/-- What a key text stands for. -/
inductive Kind where
  | accountId
  | muxedAccount
  | secretSeed
  | preAuthTx
  | sha256Hash
  deriving DecidableEq, Repr

/-- The version byte of a kind: eight times the value of the base 32 digit that opens the text,
which is `G`, `M`, `S`, `T` or `X`. -/
def Kind.version : Kind → UInt8
  | .accountId => 48
  | .muxedAccount => 96
  | .secretSeed => 144
  | .preAuthTx => 152
  | .sha256Hash => 184

def encode (kind : Kind) (payload : Bytes) : String :=
  let content := kind.version :: payload
  Base32.encode (content ++ Crc16.littleEndian content)

/-- The length of version, payload and checksum that goes with a version byte: a muxed payload is a
64-bit number and a key, every other one a key or hash of 32 bytes. -/
def expectedLength (version : UInt8) : Nat :=
  if version = Kind.muxedAccount.version then 43 else 35

/-- The bytes of a base 32 text in its one proper spelling. -/
def decodeCanonical (text : String) : Except Failure Bytes :=
  match Text.Ascii.foreignRun? text with
  | some run => .error (Failure.because .invalidStrKey run.message)
  | none =>
    match Base32.decode text with
    | .error fault => .error (Failure.because .invalidStrKey fault.message)
    | .ok bytes =>
      if Base32.encode bytes = text then .ok bytes
      else .error (.fault (Fault.of .invalidStrKey "non-canonical strkey encoding" [] none))

/-- The payload of a text of the given kind. Length and checksum are looked at before the kind, so a
faulty text is never taken for one of another kind. -/
def decode (kind : Kind) (text : String) : Except Failure Bytes := do
  let bytes ← decodeCanonical text
  match bytes with
  | [] => throw (Failure.plain .invalidStrKey)
  | version :: _ =>
    if bytes.length ≠ expectedLength version then
      throw (Failure.withDetail .invalidStrKey "length" (.number bytes.length))
    let content := bytes.take (bytes.length - 2)
    if Crc16.littleEndian content ≠ bytes.drop (bytes.length - 2) then
      throw (Failure.plain .invalidStrKeyChecksum)
    if version ≠ kind.version then
      throw (.fault (Fault.of .invalidStrKeyVersion ""
        [("expected", .number kind.version.toNat), ("actual", .number version.toNat)] none))
    return content.drop 1

def encodeMuxed (key : Bytes) (id : Nat) : String :=
  encode .muxedAccount (Bytes.ofNatBE 8 id ++ key)

def encodeMuxed? (key : Bytes) (id : Int) : Except Failure String :=
  if 0 ≤ id ∧ id < 2 ^ 64 then .ok (encodeMuxed key id.toNat) else .error .numberOutOfRange

/-- The key and the number of a muxed text. -/
def decodeMuxed (text : String) : Except Failure (Bytes × Nat) := do
  let payload ← decode .muxedAccount text
  return (payload.drop 8, Bytes.toNatBE (payload.take 8))

end StrKey

end LedgerWire
