import LedgerWire.Power

/-!
Contract: byte strings as lists of octets, their hexadecimal text and big-endian numbers.

Owns:
- `Bytes`, the one representation of binary data in this library;
- lower-case hexadecimal printing, and reading in either case with blanks between bytes;
- big-endian numbers of a fixed width, written and read.

Does not own: framing, padding or any other rule of the wire format.
-/

namespace LedgerWire

/-- Binary data, first byte first. -/
abbrev Bytes := List UInt8

namespace Bytes

/-- The lower-case hexadecimal digit of a value below sixteen. -/
def hexDigit (n : Nat) : Char :=
  if n < 10 then Char.ofNat (0x30 + n) else Char.ofNat (0x57 + n)

def hexValue? (c : Char) : Option Nat :=
  if '0' ≤ c && c ≤ '9' then some (c.toNat - 0x30)
  else if 'a' ≤ c && c ≤ 'f' then some (c.toNat - 0x57)
  else if 'A' ≤ c && c ≤ 'F' then some (c.toNat - 0x37)
  else none

def hexPair (b : UInt8) : List Char :=
  [hexDigit (b.toNat / 16), hexDigit (b.toNat % 16)]

/-- Lower-case hexadecimal text, two digits a byte. -/
def toHex (bytes : Bytes) : String :=
  String.ofList (bytes.flatMap hexPair)

/-- The blanks that may stand between two bytes of hexadecimal text. -/
def isHexBlank (c : Char) : Bool :=
  c == ' ' || (0x09 ≤ c.toNat && c.toNat ≤ 0x0D)

/-- Bytes from the characters of a hexadecimal text. Blanks may stand before, between and after
bytes, never between the two digits of one. -/
def ofHexChars? : List Char → Option Bytes
  | [] => some []
  | c :: rest =>
    if isHexBlank c then
      ofHexChars? rest
    else
      match rest with
      | [] => none
      | d :: rest => do
        let high ← hexValue? c
        let low ← hexValue? d
        return UInt8.ofNat (high * 16 + low) :: (← ofHexChars? rest)

def ofHex? (text : String) : Option Bytes :=
  ofHexChars? text.toList

/-- The number whose big-endian digits, base 256, are these bytes. -/
def toNatBE (bytes : Bytes) : Nat :=
  bytes.foldl (fun value b => value * 256 + b.toNat) 0

/-- The last `width` big-endian digits, base 256, of a number. -/
def ofNatBE : (width : Nat) → Nat → Bytes
  | 0, _ => []
  | width + 1, n => ofNatBE width (n / 256) ++ [UInt8.ofNat n]

/-- The number whose little-endian digits, base 256, are these bytes. -/
def toNatLE : Bytes → Nat
  | [] => 0
  | b :: rest => b.toNat + 256 * toNatLE rest

/-- The first `width` little-endian digits, base 256, of a number. -/
def ofNatLE : (width : Nat) → Nat → Bytes
  | 0, _ => []
  | width + 1, n => UInt8.ofNat n :: ofNatLE width (n / 256)

@[simp] theorem length_ofNatBE (width n : Nat) : (ofNatBE width n).length = width := by
  induction width generalizing n with
  | zero => rfl
  | succ width ih => simp [ofNatBE, ih]

@[simp] theorem length_ofNatLE (width n : Nat) : (ofNatLE width n).length = width := by
  induction width generalizing n with
  | zero => rfl
  | succ width ih => simp [ofNatLE, ih]

end Bytes

end LedgerWire
