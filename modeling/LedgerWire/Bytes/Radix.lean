import LedgerWire.Bytes

/-!
Contract: bytes regrouped into digits of a smaller base, the arithmetic under base 32 and base 64.

A group of bytes is one big-endian number and is written as that number's digits. The last group may
be short: it is filled up with zero bytes, and only the digits that hold bits of real bytes are
kept. Reading fills a short group of digits with zeros and keeps the bytes that are complete.

Owns:
- numbers from and to big-endian digits of any base;
- `Radix`, a group size, with `digitsOf` and `bytesOf`.

Does not own: alphabets, padding characters and which digit counts are accepted.
-/

namespace LedgerWire

/-- The number with these big-endian digits. -/
def ofDigitsBE (base : Nat) (digits : List Nat) : Nat :=
  digits.foldl (fun value digit => value * base + digit) 0

/-- The last `width` big-endian digits of a number. -/
def digitsBE (base : Nat) : (width : Nat) → Nat → List Nat
  | 0, _ => []
  | width + 1, n => digitsBE base width (n / base) ++ [n % base]

/-- A list cut into pieces of `size` elements, the last one possibly shorter. -/
def pieces {α : Type} (size : Nat) (items : List α) : List (List α) :=
  if items.isEmpty || size = 0 then
    []
  else
    items.take size :: pieces size (items.drop size)
termination_by items.length
decreasing_by
  rename_i h
  simp only [List.isEmpty_iff, Bool.or_eq_true, decide_eq_true_eq, not_or] at h
  have := List.length_pos_iff.mpr h.1
  simp only [List.length_drop]
  omega

/-- A group of `groupBytes` bytes is written as `groupDigits` digits of `digitBits` bits each. -/
structure Radix where
  digitBits : Nat
  groupBytes : Nat
  groupDigits : Nat
  deriving DecidableEq, Repr

namespace Radix

def base (radix : Radix) : Nat :=
  2 ^ radix.digitBits

/-- The number of digits that hold at least one bit of `count` bytes. -/
def digitCount (radix : Radix) (count : Nat) : Nat :=
  (8 * count + radix.digitBits - 1) / radix.digitBits

/-- The number of bytes that `count` digits complete. -/
def byteCount (radix : Radix) (count : Nat) : Nat :=
  radix.digitBits * count / 8

/-- The digits of one group of at most `groupBytes` bytes. -/
def groupDigitsOf (radix : Radix) (group : Bytes) : List Nat :=
  let full := group ++ List.replicate (radix.groupBytes - group.length) 0
  (digitsBE radix.base radix.groupDigits (Bytes.toNatBE full)).take (radix.digitCount group.length)

/-- The bytes of one group of at most `groupDigits` digits. -/
def groupBytesOf (radix : Radix) (group : List Nat) : Bytes :=
  let full := group ++ List.replicate (radix.groupDigits - group.length) 0
  (Bytes.ofNatBE radix.groupBytes (ofDigitsBE radix.base full)).take (radix.byteCount group.length)

def digitsOf (radix : Radix) (bytes : Bytes) : List Nat :=
  (pieces radix.groupBytes bytes).flatMap radix.groupDigitsOf

/-- The bytes of a digit string; bits past the last complete byte are dropped. -/
def bytesOf (radix : Radix) (digits : List Nat) : Bytes :=
  (pieces radix.groupDigits digits).flatMap radix.groupBytesOf

end Radix

end LedgerWire
