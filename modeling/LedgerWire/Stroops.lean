import LedgerWire.Wire.Codec

/-!
Contract: counts of the smallest currency unit, signed and of 64 bits. Arithmetic is checked: a
result outside the range is no result.

Owns:
- `Stroops`, its checked arithmetic, and its two wire forms, of 64 bits and of 32 unsigned bits.

Does not own: decimal amounts, which stand in `Amount`.
-/

namespace LedgerWire

open Wire

/-- A count of the smallest currency unit. -/
structure Stroops where
  value : Int
  inRange : Integer.int64.Fits value
  deriving DecidableEq

namespace Stroops

/-- The count of a number in range. -/
def ofInt? (value : Int) : Option Stroops :=
  if h : Integer.int64.Fits value then some ⟨value, h⟩ else none

/-- The count of a number, or the fault that it is out of range. -/
def ofInt (value : Int) : Except Failure Stroops :=
  if h : Integer.int64.Fits value then .ok ⟨value, h⟩
  else .error (Failure.withDetail .invalidStroops "value" (.number value))

def foreign (value : ForeignValue) : Failure :=
  .fault (Fault.of .invalidStroops s!"stroops must be an int, got {value.name}" [] none)

def largest : Stroops := ⟨2 ^ 63 - 1, by decide⟩

/-- The fee below which no operation is carried out. -/
def leastBaseFee : Int := 100

def checkedAdd (a b : Stroops) : Option Stroops := ofInt? (a.value + b.value)

def checkedSub (a b : Stroops) : Option Stroops := ofInt? (a.value - b.value)

def checkedMul (a b : Stroops) : Option Stroops := ofInt? (a.value * b.value)

/-- The quotient, cut toward zero, if there is one in range. -/
def checkedDiv (a b : Stroops) : Option Stroops :=
  if b.value = 0 then none else ofInt? (a.value.tdiv b.value)

/-- What the quotient leaves, which has the sign of the dividend, if there is a quotient. -/
def checkedRem (a b : Stroops) : Option Stroops := do
  let quotient ← checkedDiv a b
  ofInt? (a.value - b.value * quotient.value)

def describe (stroops : Stroops) : String := s!"Stroops({stroops.value})"

/-- The 64-bit form. -/
def codec : Codec Stroops :=
  Codec.int64.refine ofInt (·.value)

/-- The 32-bit form, for fees, which are not negative. -/
def feeCodec : Codec Stroops where
  write stroops :=
    if stroops.value < 0 then
      Output.failed (Failure.plain .negativeStroops)
    else if Integer.uint32.greatest < stroops.value then
      Output.failed (Failure.xdr s!"stroops value does not fit in uint32: {stroops.value}")
    else
      Codec.uint32.write stroops.value
  read := do Reader.ofExcept (ofInt (← Codec.uint32.read))

end Stroops

end LedgerWire
