import LedgerWire.Calendar.Duration

/-!
Contract: the clocks that times are read from. A zone tells for each time that its clock can show
how far the clock is then ahead of UTC, to the microsecond and by less than a day. A clock that is
set back shows some times twice, and one that is set forward leaves some out; a zone has two offsets
for these, and which of them counts is said beside the time.

Owns:
- `Offset` and its text;
- `Zone`, with the zones of one offset, among them UTC, and the description of a zone.

Does not own: dates and times of day, and zones that do not tell their offset.
-/

namespace LedgerWire

/-- How far a clock is ahead of UTC: less than a day either way. -/
structure Offset where
  microseconds : Int
  lessThanDay : -Duration.dayLength < microseconds ∧ microseconds < Duration.dayLength
  deriving DecidableEq, Repr

namespace Offset

def zero : Offset := ⟨0, by decide⟩

def ofMicroseconds? (microseconds : Int) : Option Offset :=
  if h : -Duration.dayLength < microseconds ∧ microseconds < Duration.dayLength then
    some ⟨microseconds, h⟩
  else
    none

/-- A number with at least as many digits as stated. -/
def padded (width n : Nat) : String :=
  let digits := Nat.toDigits 10 n
  String.ofList (List.replicate (width - digits.length) '0' ++ digits)

/-- The offset as sign, hours and minutes, with seconds and microseconds where there are any. -/
def text (offset : Offset) : String :=
  let size := offset.microseconds.natAbs
  let seconds := size / 1000000
  let sign := if offset.microseconds < 0 then "-" else "+"
  let minuteText := sign ++ padded 2 (seconds / 3600) ++ ":" ++ padded 2 (seconds / 60 % 60)
  let secondText := if size % 60000000 = 0 then "" else ":" ++ padded 2 (seconds % 60)
  let fractionText := if size % 1000000 = 0 then "" else "." ++ padded 6 (size % 1000000)
  minuteText ++ secondText ++ fractionText

end Offset

/-- The offsets of a zone at a time on its clock: the one that counts unless the second of two such
times is meant, and the one that counts then. Where the clock shows a time once, the two are the
same. -/
structure OffsetPair where
  first : Offset
  second : Offset
  deriving DecidableEq, Repr

/-- A zone: the offsets that it starts with, and the changes in their order, each with the time on
the zone's own clock from which it holds, in microseconds since the start of 1970. Zones that agree
in all this may still be different zones, and then have different serial numbers. -/
structure Zone where
  serial : Nat
  initial : OffsetPair
  changes : List (Int × OffsetPair)
  label? : Option String
  deriving DecidableEq, Repr

namespace Zone

/-- The zone whose clock always has the same offset. -/
def fixed (offset : Offset) : Zone := ⟨0, ⟨offset, offset⟩, [], none⟩

def utc : Zone := fixed .zero

/-- The offsets at a time on the zone's clock. -/
def offsetsAt (zone : Zone) (clock : Int) : OffsetPair :=
  zone.changes.foldl (fun offsets change => if change.1 ≤ clock then change.2 else offsets)
    zone.initial

/-- The offset at a time on the zone's clock, of which the second may be meant. -/
def offsetAt (zone : Zone) (clock : Int) (fold : Bool) : Offset :=
  if fold then (zone.offsetsAt clock).second else (zone.offsetsAt clock).first

/-- The microseconds since the start of 1970 in UTC when the zone's clock shows a time. -/
def instantAt (zone : Zone) (clock : Int) (fold : Bool) : Int :=
  clock - (zone.offsetAt clock fold).microseconds

/-- Whether it makes a difference which of two times is meant. -/
def Ambiguous (zone : Zone) (clock : Int) : Prop :=
  (zone.offsetsAt clock).first ≠ (zone.offsetsAt clock).second

instance (zone : Zone) (clock : Int) : Decidable (zone.Ambiguous clock) :=
  inferInstanceAs (Decidable (_ ≠ _))

/-- How a zone is shown in descriptions: by its label, or else by its offset. -/
def describe (zone : Zone) : String :=
  match zone.label? with
  | some label => label
  | none =>
    let offset := zone.initial.first.microseconds
    if offset = 0 then "datetime.timezone.utc"
    else s!"datetime.timezone({Duration.describeMicroseconds offset})"

end Zone

end LedgerWire
