import LedgerWire.Decimal.Basic

/-!
Contract: arithmetic in a working precision. Every operation gives the exact result rounded to the
precision, half to even, unless that is too great. A sum has the smaller exponent of its terms, a
product the sum of the exponents; a quotient that comes out even takes the exponent closest to the
difference of the exponents, and one that does not takes all the digits it may have.

Owns:
- `add`, `sub`, `mul`, `div`, `rem` and `pad`.

Does not own: division by zero, which its callers exclude.
-/

namespace LedgerWire.Decimal

/-- The sum. A sum that is zero is negative only if both terms are. -/
def add (precision : Nat) (a b : Decimal) : Except Condition Decimal :=
  let exponent := min a.exponent b.exponent
  let total := a.signedAt exponent + b.signedAt exponent
  let negative := if total = 0 then a.negative && b.negative else total < 0
  finish precision ⟨negative, total.natAbs, exponent⟩

def sub (precision : Nat) (a b : Decimal) : Except Condition Decimal :=
  add precision a b.negate

def mul (precision : Nat) (a b : Decimal) : Except Condition Decimal :=
  finish precision
    ⟨a.negative != b.negative, a.coefficient * b.coefficient, a.exponent + b.exponent⟩

/-- Moves trailing zeros of a coefficient into the exponent, at most `count` of them. -/
def stripZeros : (count : Nat) → Decimal → Decimal
  | 0, d => d
  | count + 1, d =>
    if d.coefficient % 10 = 0 then
      stripZeros count ⟨d.negative, d.coefficient / 10, d.exponent + 1⟩
    else
      d

/-- The quotient by a number that is not zero. One digit more than the precision is worked out; if
the division leaves a rest there, that digit is made odd enough for the rounding to see it. -/
def div (precision : Nat) (a b : Decimal) : Except Condition Decimal :=
  let negative := a.negative != b.negative
  let ideal := a.exponent - b.exponent
  if a.isZero then
    finish precision ⟨negative, 0, ideal⟩
  else
    let shift := (digitCount b.coefficient : Int) - digitCount a.coefficient + precision + 1
    let dividend := a.coefficient * 10 ^ shift.toNat
    let divisor := b.coefficient * 10 ^ (-shift).toNat
    let quotient := dividend / divisor
    if dividend % divisor = 0 then
      finish precision
        (stripZeros shift.toNat ⟨negative, quotient, ideal - shift⟩)
    else
      let sticky := if quotient % 5 = 0 then quotient + 1 else quotient
      finish precision ⟨negative, sticky, ideal - shift⟩

/-- What is left of a number after taking away another, not zero, as often as it goes. It has the
sign of the dividend. There is no result if the whole quotient has more digits than the
precision. -/
def rem (precision : Nat) (a b : Decimal) : Except Condition Decimal :=
  let exponent := min a.exponent b.exponent
  if (precision : Int) < a.adjusted - b.adjusted && !a.isZero then
    .error .invalid
  else
    let dividend := a.coefficientAt exponent
    let divisor := b.coefficientAt exponent
    if precision < digitCount (dividend / divisor) then .error .invalid
    else finish precision ⟨a.negative, dividend % divisor, exponent⟩

/-- The same value with `places` digits after the point, of which it has no more, unless that takes
more digits than the precision. -/
def pad (precision places : Nat) (d : Decimal) : Except Condition Decimal :=
  let padded := d.truncateTo places
  if digitCount padded.coefficient ≤ precision then .ok padded else .error .invalid

end LedgerWire.Decimal
