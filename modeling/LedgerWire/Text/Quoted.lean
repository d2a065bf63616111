import LedgerWire.Bytes
import LedgerWire.Text.Printable

/-!
Contract: the quoted form in which reports and descriptions show a text or a byte string.

A text stands between single quotes, or between double quotes when it holds a single quote and no
double quote. A backslash and the chosen quote are escaped by a backslash, tab, line feed and
carriage return by their letters, and every other unprintable character by the hexadecimal digits of
its code point: two, four or eight of them.

Owns:
- `quoted` for texts and `quotedBytes` for byte strings.

Does not own: which values are shown, and where.
-/

namespace LedgerWire.Text

/-- The last `width` hexadecimal digits of a number. -/
def hexDigits : (width : Nat) → Nat → List Char
  | 0, _ => []
  | width + 1, n => hexDigits width (n / 16) ++ [Bytes.hexDigit (n % 16)]

/-- The quote for a text: double only if the text holds a single quote and no double quote. -/
def chooseQuote (chars : List Char) : Char :=
  if chars.contains '\'' && !chars.contains '"' then '"' else '\''

/-- The escapes that do not depend on the character's code point being printable. -/
def commonEscape? (quote c : Char) : Option (List Char) :=
  if c == quote || c == '\\' then some ['\\', c]
  else if c == '\t' then some ['\\', 't']
  else if c == '\n' then some ['\\', 'n']
  else if c == '\r' then some ['\\', 'r']
  else none

/-- The escape by code point: two, four or eight digits, as few of these as hold it. -/
def escapeCodePoint (c : Char) : List Char :=
  if c.toNat < 0x100 then '\\' :: 'x' :: hexDigits 2 c.toNat
  else if c.toNat < 0x10000 then '\\' :: 'u' :: hexDigits 4 c.toNat
  else '\\' :: 'U' :: hexDigits 8 c.toNat

/-- How one character of a text is shown. -/
def escapeChar (quote c : Char) : List Char :=
  match commonEscape? quote c with
  | some shown => shown
  | none => if isPrintable c then [c] else escapeCodePoint c

/-- How one byte of a byte string is shown. -/
def escapeByte (quote : Char) (b : UInt8) : List Char :=
  let c := Char.ofNat b.toNat
  match commonEscape? quote c with
  | some shown => shown
  | none =>
    if 0x20 ≤ b.toNat && b.toNat < 0x7F then [c] else '\\' :: 'x' :: hexDigits 2 b.toNat

/-- The quoted form of a text. -/
def quoted (text : String) : String :=
  let chars := text.toList
  let quote := chooseQuote chars
  String.ofList (quote :: chars.flatMap (escapeChar quote) ++ [quote])

/-- The quoted form of a byte string, marked by a leading `b`. -/
def quotedBytes (bytes : Bytes) : String :=
  let quote := chooseQuote (bytes.map fun b => Char.ofNat b.toNat)
  String.ofList ('b' :: quote :: bytes.flatMap (escapeByte quote) ++ [quote])

end LedgerWire.Text
