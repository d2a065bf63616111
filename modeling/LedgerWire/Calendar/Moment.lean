import LedgerWire.Calendar.Date
import LedgerWire.Calendar.Zone

/-!
Contract: points in time. A `DateTime` is what a caller states, to the microsecond and perhaps
without a zone; a `Moment` is what is kept, in whole seconds of its own clock and always with a
zone. A clock that is off by a fraction of a second shows whole seconds when UTC does not, so the
Unix time of a moment, which is a whole number, need not be its instant.

Moments of one zone are compared by what its clock shows, others by their instants; a time that a
clock shows twice is the same as no time on another clock.

Owns:
- `DateTime`, `Moment` and the range of years 1 to 9999 in which a moment's own clock must read;
- the instant and the Unix time of a moment, and when two moments are the same or one is before the
  other;
- the ISO 8601 text and the description of a moment.

Does not own: zones, and limits that particular uses of a time put on it.
-/

namespace LedgerWire

/-- A date and time of day, with the zone of the clock that shows it if one is stated, and whether
the second of two such times is meant. -/
structure DateTime where
  date : Date
  hour : Nat
  minute : Nat
  second : Nat
  microsecond : Nat
  zone? : Option Zone
  fold : Bool
  deriving DecidableEq, Repr

namespace DateTime

/-- Whether a time is one of the calendar and of the clock. Counting the days of a date that there
is not leads to another date. -/
def Proper (t : DateTime) : Prop :=
  1 ≤ t.date.year ∧ t.date.year ≤ 9999 ∧ Date.ofDays t.date.toDays = t.date ∧
    t.hour < 24 ∧ t.minute < 60 ∧ t.second < 60 ∧ t.microsecond < 1000000

instance (t : DateTime) : Decidable t.Proper :=
  inferInstanceAs (Decidable (_ ∧ _))

/-- A time of year, month and day, and then as much of hour, minute, second and microsecond as is
stated. -/
def ofClock (parts : List Int) (zone? : Option Zone) (fold : Bool) : Except Failure DateTime :=
  let part (i : Nat) : Nat := (parts.getD i 0).toNat
  let t : DateTime := {
    date := ⟨parts.getD 0 0, part 1, part 2⟩
    hour := part 3
    minute := part 4
    second := part 5
    microsecond := part 6
    zone? := zone?
    fold := fold }
  if t.Proper ∧ ∀ n ∈ parts, 0 ≤ n then .ok t else .error .malformedTime

/-- A time on a clock whose offset from UTC is stated in minutes, if it is. -/
def ofParts (parts : List Int) (minutes? : Option Int) : Except Failure DateTime :=
  match minutes? with
  | none => ofClock parts none false
  | some minutes =>
    match Offset.ofMicroseconds? (minutes * 60000000) with
    | some offset => ofClock parts (some (Zone.fixed offset)) false
    | none => .error .malformedTime

/-- The zone of the clock; none stated means UTC. -/
def zone (t : DateTime) : Zone := t.zone?.getD Zone.utc

/-- The seconds since the start of 1970 on the clock that shows this time. -/
def clockSeconds (t : DateTime) : Int :=
  t.date.toDays * 86400 + t.hour * 3600 + t.minute * 60 + t.second

/-- The microseconds since the start of 1970 in UTC. -/
def instant (t : DateTime) : Int :=
  t.zone.instantAt (t.clockSeconds * 1000000 + t.microsecond) t.fold

end DateTime

namespace Moment

/-- The first second of the year 1 on a clock, as seconds since 1970. -/
def earliest : Int := -62135596800

/-- The last second of the year 9999. -/
def latest : Int := 253402300799

/-- What every moment keeps: its own clock shows a year from 1 to 9999. -/
def Readable (clock : Int) : Prop := earliest ≤ clock ∧ clock ≤ latest

instance (clock : Int) : Decidable (Readable clock) :=
  inferInstanceAs (Decidable (_ ∧ _))

end Moment

/-- A point in time: the seconds since the start of 1970 that a clock shows, whether the second of
two such times is meant, and the zone of the clock. -/
structure Moment where
  clock : Int
  fold : Bool
  zone : Zone
  readable : Moment.Readable clock
  deriving DecidableEq

/-- A way to compare times that may be missing. -/
abbrev TimeRelation := Option Moment → Option Moment → Bool

namespace Moment

/-- The moment at which a clock in UTC shows a Unix time. -/
def ofUnix? (unix : Int) : Option Moment :=
  if h : Readable unix then some ⟨unix, false, Zone.utc, h⟩ else none

/-- A stated time without the microseconds of its clock. -/
def ofDateTime? (t : DateTime) : Option Moment :=
  if h : Readable t.clockSeconds then some ⟨t.clockSeconds, t.fold, t.zone, h⟩ else none

/-- The moment some time after a stated one, without its microseconds. Both are read from a clock in
UTC, whatever zone is stated, and that clock has to show both. -/
def after? (t : DateTime) (duration : Duration) : Option Moment :=
  if Readable (t.instant / 1000000) then
    ofUnix? ((t.instant + duration.microseconds) / 1000000)
  else
    none

/-- The microseconds since the start of 1970 in UTC. -/
def instant (moment : Moment) : Int := moment.zone.instantAt (moment.clock * 1000000) moment.fold

/-- The Unix time: the whole seconds since the start of 1970 in UTC. -/
def unix (moment : Moment) : Int := Seconds.ofMicroseconds moment.instant

/-- The Unix time of a time that may be missing, in whose place zero stands. -/
def unixOrZero (moment? : Option Moment) : Int := (moment?.map unix).getD 0

/-- Whether it makes a difference which of two times is meant. -/
def Ambiguous (moment : Moment) : Prop := moment.zone.Ambiguous (moment.clock * 1000000)

instance (moment : Moment) : Decidable moment.Ambiguous :=
  inferInstanceAs (Decidable (Zone.Ambiguous _ _))

/-- Whether two moments are the same. -/
def same (a b : Moment) : Bool :=
  if a.zone = b.zone then a.clock == b.clock
  else a.instant == b.instant && !decide a.Ambiguous && !decide b.Ambiguous

/-- Whether one moment is before another. -/
def before (a b : Moment) : Bool :=
  if a.zone = b.zone then decide (a.clock < b.clock) else decide (a.instant < b.instant)

/-- Whether two times are the same, or both missing. -/
def sameIfAny : TimeRelation
  | none, none => true
  | some a, some b => a.same b
  | _, _ => false

def date (moment : Moment) : Date := Date.ofDays (moment.clock / 86400)

def secondOfDay (moment : Moment) : Nat := (moment.clock % 86400).toNat

/-- The ISO 8601 text of a moment, on its own clock. -/
def isoText (moment : Moment) : String :=
  let date := moment.date
  let second := moment.secondOfDay
  let padded := Offset.padded
  let dateText :=
    padded 4 date.year.toNat ++ "-" ++ padded 2 date.month ++ "-" ++ padded 2 date.day
  let timeText :=
    padded 2 (second / 3600) ++ ":" ++ padded 2 (second / 60 % 60) ++ ":" ++ padded 2 (second % 60)
  dateText ++ "T" ++ timeText ++ (moment.zone.offsetAt (moment.clock * 1000000) moment.fold).text

/-- How a moment is shown in descriptions: the fields of its clock, without seconds that are zero,
whether the second of two times is meant, and the zone. -/
def describe (moment : Moment) : String :=
  let date := moment.date
  let second := moment.secondOfDay
  let fields := [date.year.toNat, date.month, date.day, second / 3600, second / 60 % 60]
  let fields := if second % 60 = 0 then fields else fields ++ [second % 60]
  let foldText := if moment.fold then "fold=1, " else ""
  let shown := String.intercalate ", " (fields.map toString)
  s!"datetime.datetime({shown}, {foldText}tzinfo={moment.zone.describe})"

/-- What is said of a Unix time that no moment in UTC has. Years are counted from 1900 in 32 bits;
the year that is named is in 32 bits too, and starts over where it does not fit. -/
def rangeMessage (unix : Int) : String :=
  let year := (Date.ofDays (unix / 86400)).year
  if 2 ^ 63 ≤ unix then
    "timestamp out of range for platform time_t"
  else if year - 1900 < -2 ^ 31 || 2 ^ 31 - 1 < year - 1900 then
    "[Errno 75] Value too large for defined data type"
  else
    s!"year {year.bmod (2 ^ 32)} is out of range"

end Moment

end LedgerWire
