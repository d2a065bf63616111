import LedgerWire.Bytes

/-!
Contract: the CRC-16/XMODEM checksum: the polynomial x^16 + x^12 + x^5 + 1, most significant bit
first, starting from zero.

Owns:
- `Crc16.ofBytes` and its little-endian byte form.

Does not own: what is protected by it.
-/

namespace LedgerWire.Crc16

/-- The polynomial without its leading term. -/
def polynomial : BitVec 16 := 0x1021#16

/-- One bit of the division: the register moves up by one, and is reduced if a one falls out. -/
def shift (register : BitVec 16) : BitVec 16 :=
  if register.msb then (register <<< 1) ^^^ polynomial else register <<< 1

/-- Takes in one byte, at the upper end of the register. -/
def step (register : BitVec 16) (b : UInt8) : BitVec 16 :=
  Nat.repeat shift 8 (register ^^^ (BitVec.ofNat 16 b.toNat <<< 8))

/-- The checksum of a byte string. -/
def ofBytes (bytes : Bytes) : BitVec 16 :=
  bytes.foldl step 0

/-- The two bytes of the checksum, least significant first. -/
def littleEndian (bytes : Bytes) : Bytes :=
  Bytes.ofNatLE 2 (ofBytes bytes).toNat

end LedgerWire.Crc16
