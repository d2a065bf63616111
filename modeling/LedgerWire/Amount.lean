import LedgerWire.Decimal.Arithmetic
import LedgerWire.Decimal.Text
import LedgerWire.Stroops

/-!
Contract: decimal amounts of an asset. A text gives an amount of seven digits after the point; sums,
products and quotients may have up to 28. Coefficients are at most `2^96 - 1`, and an operation
whose result needs more has no result.

Owns:
- `Amount`, its text, its checked arithmetic and its conversion from and to stroops;
- `StroopsSource`, everything a caller may give where a count is wanted.

Does not own: the rounding rules, which stand with `Decimal`.
-/

namespace LedgerWire

/-- The failure that a decimal operation without a result amounts to. -/
def Decimal.Condition.failure : Decimal.Condition → Failure
  | .overflow => .decimalOverflow
  | .invalid => .inexpressibleDecimal

namespace Amount

/-- The digits after the point of an amount that counts stroops. -/
def stroopsScale : Nat := 7

def maxCoefficient : Nat := 2 ^ 96 - 1

def maxScale : Nat := 28

/-- A precision in which sums and products of coefficients in range are exact. -/
def exactPrecision : Nat := 80

/-- The precision of quotients. -/
def quotientPrecision : Nat := 28

/-- What every amount keeps. -/
def Bounded (d : Decimal) : Prop :=
  d.coefficient ≤ maxCoefficient ∧ -(maxScale : Int) ≤ d.exponent

instance (d : Decimal) : Decidable (Bounded d) :=
  inferInstanceAs (Decidable (_ ∧ _))

end Amount

structure Amount where
  value : Decimal
  bounded : Amount.Bounded value
  deriving DecidableEq

namespace Amount

/-- The first 64 characters of a text, which is as much as details quote. -/
def excerpt (text : String) : String :=
  String.ofList (text.toList.take 64)

/-- What is said of a text that is no number. -/
def notDecimal (text : String) : String :=
  s!"not a decimal number: {Text.quoted text}"

/-- The amount that a text spells, with seven digits after the point and not more than these. -/
def parse (text : String) : Except Failure Amount :=
  match Decimal.parse? text with
  | none =>
    .error (.fault (Fault.of .unparsedAmount "" [("input", .text (excerpt text))]
      (some (notDecimal text))))
  | some d =>
    if stroopsScale < d.scale then
      .error (Failure.withDetail .invalidAmountScale "input" (.text text))
    else
      match d.pad exactPrecision stroopsScale with
      | .error condition => .error condition.failure
      | .ok padded =>
        if h : Bounded padded then .ok ⟨padded, h⟩
        else .error (.fault (Fault.of .unparsedAmount "amount out of range"
          [("input", .text text)] none))

def ofStroops (stroops : Stroops) : Amount where
  value := ⟨stroops.value < 0, stroops.value.natAbs, -stroopsScale⟩
  bounded := by
    have inRange := stroops.inRange
    simp only [Wire.Integer.Fits, Wire.Integer.least, Wire.Integer.greatest] at inRange
    refine ⟨?_, (by decide : -(28 : Int) ≤ -7)⟩
    show stroops.value.natAbs ≤ 2 ^ 96 - 1
    omega

def toText (amount : Amount) : String := amount.value.toText

def describe (amount : Amount) : String := s!"Amount('{amount.toText}')"

def scale (amount : Amount) : Nat := amount.value.scale

/-- The count of stroops of an amount of exactly seven digits after the point. -/
def toStroops (amount : Amount) : Except Failure Stroops :=
  if amount.scale ≠ stroopsScale then
    .error (Failure.plain .invalidAmountScale)
  else
    match Stroops.ofInt? amount.value.signed with
    | some stroops => .ok stroops
    | none => .error (Failure.withDetail .invalidStroops "amount" (.text amount.toText))

def compare (a b : Amount) : Ordering := a.value.compare b.value

/-- A result cut toward zero to 28 digits after the point, unless its coefficient is too great. -/
def bound? (d : Decimal) : Option Amount :=
  let cut := if maxScale < d.scale then d.truncateTo maxScale else d
  if h : Bounded cut then some ⟨cut, h⟩ else none

/-- The amount that a decimal result is, if it is one. -/
def settle (result : Except Decimal.Condition Decimal) : Except Failure (Option Amount) :=
  match result with
  | .ok d => .ok (bound? d)
  | .error condition => .error condition.failure

def checkedAdd (a b : Amount) : Except Failure (Option Amount) :=
  settle (a.value.add exactPrecision b.value)

def checkedSub (a b : Amount) : Except Failure (Option Amount) :=
  settle (a.value.sub exactPrecision b.value)

/-- The product, if in range. It fails where the exponent is too great for decimals. -/
def checkedMul (a b : Amount) : Except Failure (Option Amount) :=
  settle (a.value.mul exactPrecision b.value)

/-- The quotient, if there is one in range. It fails where the exponent is too great for
decimals. -/
def checkedDiv (a b : Amount) : Except Failure (Option Amount) :=
  if b.value.isZero then .ok none else settle (a.value.div quotientPrecision b.value)

/-- The remainder, if there is one. It fails where the quotient has more digits than can be kept. -/
def checkedRem (a b : Amount) : Except Failure (Option Amount) :=
  if b.value.isZero then .ok none else settle (a.value.rem exactPrecision b.value)

end Amount

/-- What a caller may give where a count of stroops is wanted. -/
inductive StroopsSource where
  | stroops (value : Stroops)
  | amount (value : Amount)
  | integer (value : Int)
  | text (value : String)
  | foreign (value : ForeignValue)

namespace StroopsSource

/-- Puts a failure to read or scale an amount down to the count that was wanted. -/
def blame (given : String) (result : Except Failure Stroops) : Except Failure Stroops :=
  match result with
  | .error (.fault fault) =>
    if fault.kind = .invalidAmountScale || fault.kind = .unparsedAmount then
      .error (.fault (Fault.of .invalidStroops "" [("value", .text (Amount.excerpt given))]
        (some fault.report)))
    else
      result
  | _ => result

/-- The count that was given: an amount by its seven digits, a text as an amount. -/
def toStroops : StroopsSource → Except Failure Stroops
  | .stroops value => .ok value
  | .amount value => blame value.toText value.toStroops
  | .integer value => Stroops.ofInt value
  | .text value => blame value (Amount.parse value >>= Amount.toStroops)
  | .foreign value => .error (Stroops.foreign value)

end StroopsSource

end LedgerWire
