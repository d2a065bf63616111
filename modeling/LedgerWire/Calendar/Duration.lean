import LedgerWire.Decimal.Basic
import LedgerWire.Fault

/-!
Contract: lengths of time, to the microsecond as callers give them and in whole seconds as they are
kept.

Owns:
- `Seconds.ofMicroseconds`, the whole seconds of a number of microseconds;
- `Duration` and its description;
- `Span`, whole seconds of at most 999999999 days either way.

Does not own: points in time.
-/

namespace LedgerWire

namespace Seconds

/-- The number of binary digits kept when a number of microseconds is taken as one of seconds. -/
def precision : Nat := 53

/-- A number of microseconds as one of seconds, rounded to 53 binary digits, half to even, and then
cut toward zero. The rounding reaches the next whole second only where there are centuries of
them. -/
def ofMicroseconds (microseconds : Int) : Int :=
  let size := microseconds.natAbs
  let whole := size / 1000000
  let fine := 2 ^ (precision - (whole.log2 + 1))
  let seconds : Int := Decimal.divideHalfEven (size * fine) 1000000 / fine
  if microseconds < 0 then -seconds else seconds

end Seconds

namespace Duration

def dayLength : Int := 86400000000

/-- Whether a number of microseconds is a length of at most 999999999 days and a day's remainder. -/
def InRange (microseconds : Int) : Prop :=
  -999999999 * dayLength ≤ microseconds ∧ microseconds < 1000000000 * dayLength

instance (microseconds : Int) : Decidable (InRange microseconds) :=
  inferInstanceAs (Decidable (_ ∧ _))

end Duration

structure Duration where
  microseconds : Int
  inRange : Duration.InRange microseconds
  deriving DecidableEq

namespace Duration

def make (seconds microseconds : Int) : Except Failure Duration :=
  let total := seconds * 1000000 + microseconds
  if h : InRange total then .ok ⟨total, h⟩ else .error .timeOutOfRange

/-- The length in whole seconds. -/
def wholeSeconds (duration : Duration) : Int := Seconds.ofMicroseconds duration.microseconds

/-- How a length is shown in descriptions: days, the seconds of the last day and the microseconds of
the last second, without those that are zero. -/
def describeMicroseconds (microseconds : Int) : String :=
  let rest := microseconds % dayLength
  let named (name : String) (n : Int) : List String := if n = 0 then [] else [s!"{name}={n}"]
  let parts := named "days" (microseconds / dayLength) ++ named "seconds" (rest / 1000000) ++
    named "microseconds" (rest % 1000000)
  let body := if parts.isEmpty then "0" else String.intercalate ", " parts
  s!"datetime.timedelta({body})"

end Duration

namespace Span

def least : Int := -999999999 * 86400

def greatest : Int := 999999999 * 86400 + 86399

end Span

structure Span where
  seconds : Int
  inRange : Span.least ≤ seconds ∧ seconds ≤ Span.greatest
  deriving DecidableEq

namespace Span

def ofSeconds? (seconds : Int) : Option Span :=
  if h : Span.least ≤ seconds ∧ seconds ≤ Span.greatest then some ⟨seconds, h⟩ else none

def rangeMessage (seconds : Int) : String :=
  let days := seconds / 86400
  if -2 ^ 31 ≤ days && days ≤ 2 ^ 31 - 1 then
    s!"days={days}; must have magnitude <= 999999999"
  else
    "Python int too large to convert to C int"

def describe (span : Span) : String := Duration.describeMicroseconds (span.seconds * 1000000)

end Span

end LedgerWire
