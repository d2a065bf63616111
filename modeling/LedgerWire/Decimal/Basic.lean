import LedgerWire.Power

/-!
Contract: decimal numbers of the General Decimal Arithmetic: a sign, a coefficient and a power of
ten. Different triples may have the same value; zero has a sign and an exponent too.

Owns:
- `Decimal`, its comparison by value, its integer parts;
- rounding to a number of digits, half to even, and the exponents that rounded numbers have;
- `Decimal.Condition`, why an operation has no result.

Does not own: the arithmetic operations, which stand in `Decimal.Arithmetic`, and the text form.
-/

namespace LedgerWire

/-- The number `(-1)^negative * coefficient * 10^exponent`. -/
structure Decimal where
  negative : Bool
  coefficient : Nat
  exponent : Int
  deriving DecidableEq, Repr

/-- The number of decimal digits of a number below `10 ^ 2 ^ halvings`: whether there are more than
half of these digits tells which half to count. -/
def countDigits : (halvings : Nat) → Nat → Nat
  | 0, _ => 1
  | halvings + 1, n =>
    let half := 10 ^ 2 ^ halvings
    if n < half then countDigits halvings n else 2 ^ halvings + countDigits halvings (n / half)

/-- The number of decimal digits of a number; zero has one. -/
def digitCount (n : Nat) : Nat :=
  countDigits (n.log2.log2 + 1) n

namespace Decimal

def ofInt (n : Int) : Decimal := ⟨n < 0, n.natAbs, 0⟩

def isZero (d : Decimal) : Bool := d.coefficient = 0

def signed (d : Decimal) : Int := if d.negative then -d.coefficient else d.coefficient

/-- The exponent of the first digit. -/
def adjusted (d : Decimal) : Int := d.exponent + digitCount d.coefficient - 1

def scale (d : Decimal) : Nat := (-d.exponent).toNat

/-- The same value or its opposite, by the given sign. -/
def withSign (d : Decimal) (negative : Bool) : Decimal := { d with negative := negative }

def negate (d : Decimal) : Decimal := d.withSign !d.negative

/-- The coefficient at an exponent not above the number's own. -/
def coefficientAt (d : Decimal) (exponent : Int) : Nat :=
  d.coefficient * 10 ^ (d.exponent - exponent).toNat

/-- The signed coefficient at an exponent not above the number's own. -/
def signedAt (d : Decimal) (exponent : Int) : Int :=
  d.signed * 10 ^ (d.exponent - exponent).toNat

def compare (a b : Decimal) : Ordering :=
  let exponent := min a.exponent b.exponent
  Ord.compare (a.signedAt exponent) (b.signedAt exponent)

/-- The integer part: digits after the point are dropped. -/
def toInt (d : Decimal) : Int :=
  if 0 ≤ d.exponent then d.signedAt 0
  else
    let whole : Int := d.coefficient / 10 ^ d.scale
    if d.negative then -whole else whole

/-- The greatest integer not above the number; a number without digits after the point stays. -/
def floor (d : Decimal) : Decimal :=
  if 0 ≤ d.exponent then d
  else
    let unit := 10 ^ d.scale
    let whole := d.coefficient / unit
    ⟨d.negative, if d.negative && d.coefficient % unit != 0 then whole + 1 else whole, 0⟩

/-- The quotient of a number by a positive one, to the nearest integer, a half to the even one. -/
def divideHalfEven (n unit : Nat) : Nat :=
  let whole := n / unit
  let rest := n % unit
  if unit < 2 * rest || (unit = 2 * rest && whole % 2 = 1) then whole + 1 else whole

/-- The greatest exponent that the first digit of a result has, and the opposite of the least one
that it has with all digits kept. -/
def greatestExponent : Int := 999999

/-- The least exponent that the last digit of a result has, in a precision. -/
def leastExponent (precision : Nat) : Int := -greatestExponent - (precision - 1)

/-- At most `precision` digits, and none below the least exponent: the excess is rounded off, and a
carry into a further digit moves into the exponent. -/
def round (precision : Nat) (d : Decimal) : Decimal :=
  let excess :=
    max (digitCount d.coefficient - precision) (leastExponent precision - d.exponent).toNat
  if excess = 0 then d
  else
    let rounded := divideHalfEven d.coefficient (10 ^ excess)
    if digitCount rounded ≤ precision then
      ⟨d.negative, rounded, d.exponent + excess⟩
    else
      ⟨d.negative, rounded / 10, d.exponent + excess + 1⟩

/-- Why an operation has no result. -/
inductive Condition where
  /-- The result is too great for the range of exponents. -/
  | overflow
  /-- The result takes more digits than the precision, and must not be rounded. -/
  | invalid
  deriving DecidableEq, Repr

/-- The result of an operation, of which the exact value is given: rounded, and not too great. Zero
is never too great; its exponent is brought down. -/
def finish (precision : Nat) (exact : Decimal) : Except Condition Decimal :=
  let rounded := round precision exact
  if rounded.isZero then
    .ok { rounded with exponent := min rounded.exponent greatestExponent }
  else if greatestExponent < rounded.adjusted then
    .error .overflow
  else
    .ok rounded

/-- The number cut toward zero at `places` digits after the point, with just that exponent. -/
def truncateTo (places : Nat) (d : Decimal) : Decimal :=
  if -(places : Int) ≤ d.exponent then ⟨d.negative, d.coefficientAt (-places), -places⟩
  else ⟨d.negative, d.coefficient / 10 ^ (d.scale - places), -places⟩

end Decimal

end LedgerWire
