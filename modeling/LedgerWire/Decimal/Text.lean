import LedgerWire.Decimal.Basic
import LedgerWire.Text.DecimalDigit

/-!
Contract: decimal numbers as text.

Read is a sign or none, digits with at most one point among them, and at least one digit; the digits
may be of any script, and one line feed may follow. There is no exponent. Written is the scientific
form of the General Decimal Arithmetic: positional if no zeros have to be invented at the end and
not more than five after the point, else with an exponent.

Owns:
- `Decimal.parse?` and `Decimal.toText`;
- what is said of an operation without a result.

Does not own: limits on the number of digits.
-/

namespace LedgerWire.Decimal

/-- The number whose decimal digits are listed, most significant first. -/
def ofDigits (digits : List Nat) : Nat :=
  digits.foldl (fun value digit => value * 10 + digit) 0

theorem ofDigits_append (front back : List Nat) :
    ofDigits (front ++ back) = ofDigits front * 10 ^ back.length + ofDigits back := by
  have start (value : Nat) :
      back.foldl (fun value digit => value * 10 + digit) value =
        value * 10 ^ back.length + back.foldl (fun value digit => value * 10 + digit) 0 := by
    induction back generalizing value with
    | nil => simp
    | cons digit rest ih =>
      rw [List.foldl_cons, List.foldl_cons, ih (value * 10 + digit), ih (0 * 10 + digit),
        List.length_cons, Nat.pow_succ', Nat.add_mul, Nat.zero_mul, Nat.zero_add, Nat.mul_assoc,
        Nat.add_assoc]
  rw [ofDigits, List.foldl_append]
  exact start _

/-- The number of the digits, put together from those of two halves and these in turn from theirs.
For long lists this takes much less time. -/
def ofHalves : (halvings : Nat) → List Nat → Nat
  | 0, digits => ofDigits digits
  | halvings + 1, digits =>
    let back := digits.drop (digits.length / 2)
    ofHalves halvings (digits.take (digits.length / 2)) * 10 ^ back.length + ofHalves halvings back

theorem ofHalves_eq_ofDigits (halvings : Nat) (digits : List Nat) :
    ofHalves halvings digits = ofDigits digits := by
  induction halvings generalizing digits with
  | zero => rfl
  | succ halvings ih =>
    rw [ofHalves, ih, ih, ← ofDigits_append, List.take_append_drop]

/-- The sign that opens a text, if one does, and the rest. -/
def splitSign : List Char → Bool × List Char
  | '+' :: rest => (false, rest)
  | '-' :: rest => (true, rest)
  | chars => (false, chars)

/-- A text without the one line feed that may end it. -/
def dropFinalNewline (chars : List Char) : List Char :=
  if chars.getLast? == some '\n' then chars.dropLast else chars

def parse? (text : String) : Option Decimal := do
  let (negative, body) := splitSign (dropFinalNewline text.toList)
  let isDigit := fun c => (Text.decimalDigit? c).isSome
  let whole := body.takeWhile isDigit
  let fraction ←
    match body.drop whole.length with
    | [] => some []
    | '.' :: fraction => if fraction.all isDigit then some fraction else none
    | _ => none
  if whole.isEmpty && fraction.isEmpty then
    none
  else
    let digits := (whole ++ fraction).filterMap Text.decimalDigit?
    return ⟨negative, ofHalves digits.length.log2 digits, -fraction.length⟩

def toText (d : Decimal) : String :=
  let sign := if d.negative then "-" else ""
  let digits := Nat.toDigits 10 d.coefficient
  if d.exponent ≤ 0 && -6 ≤ d.adjusted then
    let filled := List.replicate (d.scale + 1 - digits.length) '0' ++ digits
    let whole := filled.take (filled.length - d.scale)
    let fraction := filled.drop (filled.length - d.scale)
    let point := if fraction.isEmpty then [] else ['.']
    sign ++ String.ofList (whole ++ point ++ fraction)
  else
    let point := if digits.length ≤ 1 then [] else ['.']
    let mantissa := String.ofList (digits.take 1 ++ point ++ digits.drop 1)
    let mark := if d.adjusted < 0 then "E" else "E+"
    sign ++ mantissa ++ mark ++ toString d.adjusted

/-- What is said of an operation without a result. -/
def Condition.notice : Condition → String
  | .overflow => "[<class 'decimal.Overflow'>]"
  | .invalid => "[<class 'decimal.InvalidOperation'>]"

end LedgerWire.Decimal
