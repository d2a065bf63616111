import LedgerWire.Amount
import LedgerWire.Text.Numeral

/-!
Contract: prices as fractions of two signed 32-bit numbers, kept as they are given.

A decimal text becomes a fraction by its continued fraction, worked out in decimals of 28 digits.
The expansion goes on while both parts of the next convergent stay below the greatest 32-bit number,
and stops early when nothing is left of the text's value.

Owns:
- `Price`, its text forms, its lowest terms, its wire form;
- `Price.parse`.

Does not own: decimal arithmetic.
-/

namespace LedgerWire

open Wire

/-- A fraction, not necessarily in lowest terms. -/
structure Price where
  numerator : Int
  denominator : Int
  numeratorFits : Integer.int32.Fits numerator
  denominatorFits : Integer.int32.Fits denominator
  deriving DecidableEq

namespace Price

/-- The failure of a part that does not fit, or of showing it. -/
def outOfRange (part : Int) : Failure :=
  match Numeral.ofInt part with
  | .ok shown => Failure.xdr s!"price component out of int32 range: {shown}"
  | .error failure => failure

/-- The fraction of two numbers, the first of which that does not fit is named. -/
def make (numerator denominator : Int) : Except Failure Price :=
  if hn : Integer.int32.Fits numerator then
    if hd : Integer.int32.Fits denominator then
      .ok ⟨numerator, denominator, hn, hd⟩
    else
      .error (outOfRange denominator)
  else
    .error (outOfRange numerator)

def toText (price : Price) : String := s!"{price.numerator}/{price.denominator}"

def describe (price : Price) : String := s!"Price({price.numerator}, {price.denominator})"

/-- Lowest terms with a positive denominator. -/
def reduced (price : Price) : Except Failure Price :=
  if price.denominator = 0 then
    .error .zeroDenominator
  else
    let divisor : Int := Int.gcd price.numerator price.denominator
    let signed := if price.denominator < 0 then -divisor else divisor
    make (price.numerator / signed) (price.denominator / signed)

def codec : Codec Price :=
  (Codec.int32.pair Codec.int32).refine
    (fun parts => make parts.1 parts.2)
    (fun price => (price.numerator, price.denominator))

/-! ### The continued fraction -/

/-- A convergent, its parts still decimals. -/
structure Convergent where
  numerator : Decimal
  denominator : Decimal
  deriving DecidableEq, Repr

/-- The bound that a convergent's parts stay below. -/
def partBound : Decimal := Decimal.ofInt Integer.int32.greatest

def precision : Nat := 28

/-- The next convergent for a partial quotient. -/
def Convergent.next (older newer : Convergent) (whole : Decimal) :
    Except Decimal.Condition Convergent := do
  let numerator ← (← whole.mul precision newer.numerator).add precision older.numerator
  let denominator ← (← whole.mul precision newer.denominator).add precision older.denominator
  return ⟨numerator, denominator⟩

/-- The last convergent in range of a number's expansion, after two given ones and in at most
`passes` further steps. There is none if what is left of the number has a reciprocal too great for
decimals. -/
def expand :
    (passes : Nat) → Decimal → (older newer : Convergent) → Except Decimal.Condition Convergent
  | 0, _, _, newer => .ok newer
  | passes + 1, number, older, newer =>
    if number.compare partBound == .gt then
      .ok newer
    else do
      let whole := number.floor
      let fraction ← number.sub precision whole
      let next ← older.next newer whole
      if next.denominator.compare partBound != .lt || next.numerator.compare partBound != .lt then
        return newer
      else if fraction.isZero then
        return next
      else
        expand passes (← (Decimal.ofInt 1).div precision fraction) newer next

/-- The formal convergents `0/1` and `1/0` from which every expansion starts. -/
def formalConvergents : Convergent × Convergent :=
  (⟨Decimal.ofInt 0, Decimal.ofInt 1⟩, ⟨Decimal.ofInt 1, Decimal.ofInt 0⟩)

/-- The convergent that approximates a number. After the first step partial quotients are at least
one, so the denominators grow like the Fibonacci numbers, and the forty-seventh of these is past the
bound: the limit on the steps is never what ends the expansion. -/
def approximate (number : Decimal) : Except Decimal.Condition Convergent :=
  expand 64 number formalConvergents.1 formalConvergents.2

def unparsed (text : String) (cause : Option String) : Failure :=
  .fault (Fault.of .unparsedPrice "" [("input", .text (Amount.excerpt text))] cause)

/-- The price that the convergent found for a text is, if it has two parts in range. -/
def ofConvergent (text : String) (convergent : Convergent) : Except Failure Price :=
  if convergent.numerator.isZero || convergent.denominator.isZero then
    .error (unparsed text none)
  else
    match make convergent.numerator.toInt convergent.denominator.toInt with
    | .ok price => .ok price
    | .error (.fault fault) => .error (unparsed text (some fault.report))
    | .error failure => .error failure

def parse (text : String) : Except Failure Price :=
  if text.isEmpty then
    .error (Failure.plain .unparsedPrice)
  else
    match Decimal.parse? text with
    | none => .error (unparsed text (some (Amount.notDecimal text)))
    | some number =>
      match approximate number with
      | .error condition => .error (unparsed text (some condition.notice))
      | .ok convergent => ofConvergent text convergent

end Price

end LedgerWire
