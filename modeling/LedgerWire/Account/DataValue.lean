import LedgerWire.Wire.Codec

/-!
Contract: values that accounts keep under a name: at most 64 bytes.

Owns:
- `DataValue` and its wire form.

Does not own: the names.
-/

namespace LedgerWire

open Wire

structure DataValue where
  bytes : Bytes
  length_le : bytes.length ≤ 64
  deriving DecidableEq

namespace DataValue

def ofBytes (bytes : Bytes) : Except Failure DataValue :=
  if h : bytes.length ≤ 64 then .ok ⟨bytes, h⟩
  else .error (Failure.withDetail .invalidDataValue "length" (.number bytes.length))

def ofText (text : String) : Except Failure DataValue := ofBytes (Text.Utf8.encode text)

def describe (value : DataValue) : String := s!"DataValue({Text.quotedBytes value.bytes})"

def codec : Codec DataValue := (Codec.bytes (some 64)).refine ofBytes (·.bytes)

end DataValue

end LedgerWire
