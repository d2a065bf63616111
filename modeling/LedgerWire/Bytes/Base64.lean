import LedgerWire.Bytes.Radix

/-!
Contract: base 64 text in the standard alphabet, padded with `=` when written and read strictly.

A text is read from left to right: digits, then padding. Two digits of a last group need two padding
characters and three need one, after which the text must end; after complete groups any number of
padding characters may stand, provided the text does not open with one. Bits of the last digit that
belong to no byte are ignored.

Owns:
- `Base64.encode` and `Base64.decode`, with the reason a text is refused.

Does not own: what the bytes mean.
-/

namespace LedgerWire.Base64

/-- Four digits of six bits for three bytes. -/
def radix : Radix := ⟨6, 3, 4⟩

def digitChar (digit : Nat) : Char :=
  if digit < 26 then Char.ofNat (0x41 + digit)
  else if digit < 52 then Char.ofNat (0x61 + (digit - 26))
  else if digit < 62 then Char.ofNat (0x30 + (digit - 52))
  else if digit = 62 then '+'
  else '/'

def digitValue? (c : Char) : Option Nat :=
  if 'A' ≤ c && c ≤ 'Z' then some (c.toNat - 0x41)
  else if 'a' ≤ c && c ≤ 'z' then some (c.toNat - 0x61 + 26)
  else if '0' ≤ c && c ≤ '9' then some (c.toNat - 0x30 + 52)
  else if c == '+' then some 62
  else if c == '/' then some 63
  else none

def encode (bytes : Bytes) : String :=
  let digits := radix.digitsOf bytes
  let padding := (4 - digits.length % 4) % 4
  String.ofList (digits.map digitChar ++ List.replicate padding '=')

/-- Why a text is not strict base 64. -/
inductive DecodeFault where
  | notAscii
  | leadingPadding
  | foreignCharacter
  | digitAfterPadding
  | dataAfterPadding
  | loneDigit (count : Nat)
  | missingPadding
  deriving DecidableEq, Repr

def DecodeFault.message : DecodeFault → String
  | .notAscii => "string argument should contain only ASCII characters"
  | .leadingPadding => "Leading padding not allowed"
  | .foreignCharacter => "Only base64 data is allowed"
  | .digitAfterPadding => "Discontinuous padding not allowed"
  | .dataAfterPadding => "Excess data after padding"
  | .loneDigit count =>
    s!"Invalid base64-encoded string: number of data characters ({count}) cannot be " ++
      "1 more than a multiple of 4"
  | .missingPadding => "Incorrect padding"

/-- Reads on after `count` digits and `pads` padding characters; yields the digits still to come. -/
def scan (count pads : Nat) : List Char → Except DecodeFault (List Nat)
  | [] =>
    if count % 4 = 0 then .ok []
    else if count % 4 = 1 then .error (.loneDigit count)
    else .error .missingPadding
  | c :: rest =>
    if c == '=' then
      if 2 ≤ count % 4 && 4 ≤ count % 4 + (pads + 1) then
        if rest.isEmpty then .ok [] else .error .dataAfterPadding
      else
        scan count (pads + 1) rest
    else
      match digitValue? c with
      | none => .error .foreignCharacter
      | some digit =>
        if pads = 0 then (scan (count + 1) 0 rest).map (digit :: ·)
        else .error .digitAfterPadding

def decode (text : String) : Except DecodeFault Bytes :=
  let chars := text.toList
  if chars.any fun c => 0x80 ≤ c.toNat then
    .error .notAscii
  else if chars.head? == some '=' then
    .error .leadingPadding
  else
    (scan 0 0 chars).map radix.bytesOf

end LedgerWire.Base64
