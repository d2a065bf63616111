import LedgerWire.Bytes.Radix

/-!
Contract: base 32 text in the alphabet `A` to `Z`, `2` to `7`, without padding characters.

Owns:
- `Base32.encode` and `Base32.decode`, with the reason a text is refused.

Does not own: canonical form. Reading drops the unused bits of a last short group, so texts that
differ only in those bits read alike; who needs one text per value compares with what is written.
-/

namespace LedgerWire.Base32

/-- Eight digits of five bits for five bytes. -/
def radix : Radix := ⟨5, 5, 8⟩

def digitChar (digit : Nat) : Char :=
  if digit < 26 then Char.ofNat (0x41 + digit) else Char.ofNat (0x32 + (digit - 26))

def digitValue? (c : Char) : Option Nat :=
  if 'A' ≤ c && c ≤ 'Z' then some (c.toNat - 0x41)
  else if '2' ≤ c && c ≤ '7' then some (c.toNat - 0x32 + 26)
  else none

def encode (bytes : Bytes) : String :=
  String.ofList ((radix.digitsOf bytes).map digitChar)

/-- Why a text is not base 32. -/
inductive DecodeFault where
  | foreignDigit
  | incompleteGroup
  deriving DecidableEq, Repr

def DecodeFault.message : DecodeFault → String
  | .foreignDigit => "Non-base32 digit found"
  | .incompleteGroup => "Incorrect padding"

/-- The digit counts a last group may have: those that can hold some whole number of bytes. -/
def groupSizes : List Nat := [0, 2, 4, 5, 7]

/-- The bytes of a text. Padding characters at its end are allowed as far as they would fill up the
last group; a whole group of nothing but padding is not a group. -/
def decode (text : String) : Except DecodeFault Bytes :=
  let chars := text.toList
  let data := (chars.reverse.dropWhile (· == '=')).reverse
  match data.mapM digitValue? with
  | none => .error .foreignDigit
  | some digits =>
    let filled := (chars.length + 7) / 8 * 8
    if digits.length + 8 ≤ filled || !groupSizes.contains (digits.length % 8) then
      .error .incompleteGroup
    else
      .ok (radix.bytesOf digits)

end LedgerWire.Base32
