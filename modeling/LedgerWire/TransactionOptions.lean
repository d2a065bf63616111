import LedgerWire.Memo
import LedgerWire.Stroops
import LedgerWire.TimeBounds

/-!
Contract: the settings that a caller applies to every transaction it makes: the fee of an operation,
how long a transaction stays valid, and a text memo. All settings are looked at before any is
refused.

Owns:
- `TransactionOptions`, its validation, and what the settings amount to.

Does not own: names under which settings arrive.
-/

namespace LedgerWire

/-- A length of validity, in seconds or as a length of time. -/
inductive Timeout where
  | seconds (value : Int)
  | duration (value : Duration)
  deriving DecidableEq

/-- The seconds of a length of validity. -/
def Timeout.toSeconds : Timeout → Int
  | .seconds value => value
  | .duration value => value.wholeSeconds

/-- The settings. -/
structure TransactionOptions where
  baseFee : Int
  timeout : Option Int
  memoText : Option String
  deriving DecidableEq

namespace TransactionOptions

/-- The names of the settings. -/
inductive Setting where
  | baseFee
  | timeout
  | memoText
  deriving DecidableEq, Repr

/-- What may be wrong with a setting. -/
inductive Problem where
  | belowLeast
  | notAboveZero
  | tooLong
  deriving DecidableEq, Repr

/-- The problems of settings, in the order fee, validity, memo. -/
def problems (options : TransactionOptions) : List (Setting × Problem) :=
  (if options.baseFee < Stroops.leastBaseFee then [(.baseFee, .belowLeast)] else []) ++
    (if options.timeout.any (· ≤ 0) then [(.timeout, .notAboveZero)] else []) ++
    (if options.memoText.any (Memo.maxTextSize < Text.Utf8.size ·) then [(.memoText, .tooLong)]
      else [])

/-- The settings, if there is no problem with any. -/
def validate
    (baseFee : Option Int)
    (timeout : Option Timeout)
    (memoText : Option String) : Except (List (Setting × Problem)) TransactionOptions :=
  let options : TransactionOptions :=
    ⟨baseFee.getD Stroops.leastBaseFee, timeout.map Timeout.toSeconds, memoText⟩
  if options.problems.isEmpty then .ok options else .error options.problems

def stroops (options : TransactionOptions) : Except Failure Stroops :=
  Stroops.ofInt options.baseFee

/-- The bounds that end a stated time's validity. -/
def timeBounds (options : TransactionOptions) (now : DateTime) :
    Except Failure (Option TimeBounds) :=
  match options.timeout with
  | none => .ok none
  | some seconds => do return some (← TimeBounds.validFor now (← Duration.make seconds 0))

def memo (options : TransactionOptions) : Except Failure Memo :=
  match options.memoText with
  | none => .ok .absent
  | some text => Memo.ofText text

end TransactionOptions

end LedgerWire
