import LedgerWire.Fault
import LedgerWire.Decimal.Text

/-!
Contract: integers as decimal text. A number of more than 4300 digits has no text, and a text of
more than 4300 digits is not read, so that neither takes more than a moment.

Read is a sign or none and then digits of any script, with at most one underscore between two of
them; blanks may stand around.

Owns:
- `Numeral.digits?`, the digits of a text;
- `Numeral.ofInt` and `Numeral.toInt`.

Does not own: decimal numbers with a point.
-/

namespace LedgerWire.Numeral

def maxDigits : Nat := 4300

/-- Whether a number has at most as many digits as have a text. -/
def Short (n : Int) : Prop := n.natAbs < 10 ^ maxDigits

instance (n : Int) : Decidable (Short n) :=
  inferInstanceAs (Decidable (_ < _))

def ofInt (n : Int) : Except Failure String :=
  if Short n then .ok (toString n) else .error .improperNumeral

/-- The runs of code points, first and last, that are white space or separate lines. -/
def blankRuns : List (Nat × Nat) := [
  (0x09, 0x0d), (0x20, 0x20), (0x85, 0x85), (0xa0, 0xa0), (0x1680, 0x1680), (0x2000, 0x200a),
  (0x2028, 0x2029), (0x202f, 0x202f), (0x205f, 0x205f), (0x3000, 0x3000)]

/-- Whether a character is left out before and after a number. -/
def isBlank (c : Char) : Bool :=
  blankRuns.any fun run => run.1 ≤ c.toNat && c.toNat ≤ run.2

/-- The digits of a text that has at least one, and at most one underscore between two of them. -/
def digits? : List Char → Option (List Nat)
  | [] => none
  | [last] => (Text.decimalDigit? last).map ([·])
  | first :: '_' :: rest => do return (← Text.decimalDigit? first) :: (← digits? rest)
  | first :: rest => do return (← Text.decimalDigit? first) :: (← digits? rest)

def toInt (text : String) : Except Failure Int :=
  let trimmed := ((text.toList.dropWhile isBlank).reverse.dropWhile isBlank).reverse
  let (negative, body) := Decimal.splitSign trimmed
  match digits? body with
  | some digits =>
    if digits.length ≤ maxDigits then
      let magnitude : Int := Decimal.ofDigits digits
      .ok (if negative then -magnitude else magnitude)
    else
      .error .improperNumeral
  | none => .error .improperNumeral

end LedgerWire.Numeral
