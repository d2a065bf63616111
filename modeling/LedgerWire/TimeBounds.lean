import LedgerWire.Calendar.Moment
import LedgerWire.Wire.Codec

/-!
Contract: the time within which a transaction is valid. Either bound may be missing; on the wire
zero stands for a missing one, so a bound at the start of 1970 is a missing one too. Bounds are kept
on the clocks that they are stated on and written as Unix times.

Owns:
- `TimeBounds`, how bounds are stated and changed, and its wire form.

Does not own: the clock.
-/

namespace LedgerWire

open Wire

namespace TimeBounds

/-- What every pair of bounds keeps: bounds are after the start of 1970, and the upper one is not
before the lower one. -/
def Proper (lower upper : Option Moment) : Prop :=
  (∀ m ∈ lower, 0 < m.instant) ∧ (∀ m ∈ upper, 0 < m.instant) ∧
    ∀ m ∈ lower, ∀ n ∈ upper, n.before m = false

instance (lower upper : Option Moment) : Decidable (Proper lower upper) :=
  inferInstanceAs (Decidable (_ ∧ _ ∧ _))

end TimeBounds

/-- The time within which a transaction is valid. -/
structure TimeBounds where
  lower : Option Moment
  upper : Option Moment
  proper : TimeBounds.Proper lower upper
  deriving DecidableEq

namespace TimeBounds

def always : TimeBounds := ⟨none, none, by simp [Proper]⟩

/-- The failure of a bound before the start of 1970. -/
def beforeEpoch : Failure :=
  .fault (Fault.of .invalidTimeBounds "time bound before the unix epoch" [] none)

/-- A bound as it is kept, of which the instant is given as it was stated: missing, if it is not
after the start of 1970 without its microseconds. -/
def bound (stated : Int) (moment : Moment) : Except Failure (Option Moment) :=
  if stated < 0 then .error beforeEpoch
  else .ok (if 0 < moment.instant then some moment else none)

/-- The bound at a stated time. -/
def boundAt (t : DateTime) : Except Failure (Option Moment) :=
  match Moment.ofDateTime? t with
  | some moment => bound t.instant moment
  | none => .error .timeOutOfRange

/-- The failure of an upper bound that is before the lower one. -/
def reversed (lower upper : Option Moment) : Failure :=
  .fault (Fault.of .invalidTimeBounds ""
    [("lower", .text ((lower.map Moment.isoText).getD "")),
      ("upper", .text ((upper.map Moment.isoText).getD ""))] none)

/-- Two bounds put together. -/
def ofBounds (lower upper : Option Moment) : Except Failure TimeBounds :=
  if h : Proper lower upper then .ok ⟨lower, upper, h⟩ else .error (reversed lower upper)

/-- A bound that may not be stated. -/
def boundAt? : Option DateTime → Except Failure (Option Moment)
  | none => .ok none
  | some t => boundAt t

/-- Bounds at stated times. -/
def make (lower upper : Option DateTime) : Except Failure TimeBounds := do
  let lower ← boundAt? lower
  let upper ← boundAt? upper
  ofBounds lower upper

/-- No lower bound, and an upper bound some time after a stated one, shown in UTC. -/
def validFor (now : DateTime) (duration : Duration) : Except Failure TimeBounds :=
  match Moment.after? now duration with
  | none => .error .timeOutOfRange
  | some moment => do ofBounds none (← bound moment.instant moment)

def withLower (bounds : TimeBounds) (t : DateTime) : Except Failure TimeBounds := do
  ofBounds (← boundAt t) bounds.upper

def withUpper (bounds : TimeBounds) (t : DateTime) : Except Failure TimeBounds := do
  ofBounds bounds.lower (← boundAt t)

/-- Whether two pairs of bounds are the same, times compared in a given way. -/
def sameBy (times : TimeRelation) (a b : TimeBounds) : Bool :=
  times a.lower b.lower && times a.upper b.upper

/-- Whether two pairs of bounds are the same. -/
def same (a b : TimeBounds) : Bool := a.sameBy Moment.sameIfAny b

def describeBound (bound : Option Moment) : String := (bound.map Moment.describe).getD "None"

def describe (bounds : TimeBounds) : String :=
  s!"TimeBounds(lower={describeBound bounds.lower}, upper={describeBound bounds.upper})"

/-- What is said of a bound that UTC cannot show. -/
def outOfRange (unix : Int) : Failure :=
  .fault
    (Fault.of .invalidTimeBounds "time bound out of range" [] (some (Moment.rangeMessage unix)))

/-- The bound of a Unix time on the wire. -/
def boundOfUnix (unix : Int) : Except Failure (Option Moment) :=
  if unix = 0 then .ok none
  else
    match Moment.ofUnix? unix with
    | some moment => .ok (some moment)
    | none => .error (outOfRange unix)

/-- The wire form: two Unix times. -/
def codec : Codec TimeBounds :=
  (Codec.uint64.pair Codec.uint64).refine
    (fun times => do
      let lower ← boundOfUnix times.1
      let upper ← boundOfUnix times.2
      ofBounds lower upper)
    (fun bounds => (Moment.unixOrZero bounds.lower, Moment.unixOrZero bounds.upper))

end TimeBounds

end LedgerWire
