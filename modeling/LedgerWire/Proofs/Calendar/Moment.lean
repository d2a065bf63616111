import LedgerWire.Calendar.Moment
import LedgerWire.Proofs.Decimal.Rounding

/-!
Contract: moments and their Unix times. The Unix time of a moment tells it only if the moment is a
whole second of UTC and no time that its clock shows twice; a moment in UTC always is one of these.

Owns:
- the bounds of the rounding of `Seconds.ofMicroseconds`, which is exact for whole seconds;
- `Moment.Exact`, the moments that their Unix time stands for, and `Moment.Definite`, those among
  them that their own clock shows at no other reading;
- `Moment.alike`, equality of Unix times, and when it is sameness.

Does not own: what carries a time.
-/

namespace LedgerWire

/-! ### Whole seconds -/

namespace Seconds

theorem le_divideHalfEven_div {size fine : Nat} (positive : 0 < fine) :
    size / 1000000 ≤ Decimal.divideHalfEven (size * fine) 1000000 / fine := by
  rw [Nat.le_div_iff_mul_le positive]
  have below : ((size / 1000000 * fine : Nat) : Int) * (1000000 : Nat) ≤ (size * fine : Nat) := by
    have whole : size / 1000000 * 1000000 ≤ size := Nat.div_mul_le_self size 1000000
    calc ((size / 1000000 * fine : Nat) : Int) * (1000000 : Nat)
        = (size / 1000000 * 1000000 * fine : Nat) := by push_cast; ring
      _ ≤ (size * fine : Nat) := by exact_mod_cast Nat.mul_le_mul_right fine whole
  exact_mod_cast Decimal.le_divideHalfEven (by decide) below

theorem divideHalfEven_div_le {size fine : Nat} :
    Decimal.divideHalfEven (size * fine) 1000000 / fine ≤ size / 1000000 + 1 := by
  have above : ((size * fine : Nat) : Int) ≤
      (((size / 1000000 + 1) * fine : Nat) : Int) * (1000000 : Nat) := by
    have next : size ≤ (size / 1000000 + 1) * 1000000 := by omega
    calc ((size * fine : Nat) : Int)
        ≤ ((size / 1000000 + 1) * 1000000 * fine : Nat) := by
          exact_mod_cast Nat.mul_le_mul_right fine next
      _ = (((size / 1000000 + 1) * fine : Nat) : Int) * (1000000 : Nat) := by push_cast; ring
  have rounded : Decimal.divideHalfEven (size * fine) 1000000 ≤ (size / 1000000 + 1) * fine := by
    exact_mod_cast Decimal.divideHalfEven_le (by decide) above
  exact Nat.div_le_of_le_mul (rounded.trans_eq (Nat.mul_comm _ _))

theorem divideHalfEven_div_mul {seconds fine : Nat} (positive : 0 < fine) :
    Decimal.divideHalfEven (seconds * 1000000 * fine) 1000000 / fine = seconds := by
  have exact : Decimal.divideHalfEven (seconds * 1000000 * fine) 1000000 = seconds * fine := by
    have product : seconds * 1000000 * fine = seconds * fine * 1000000 := by ring
    unfold Decimal.divideHalfEven
    simp [product]
  rw [exact, Nat.mul_div_cancel _ positive]

theorem natAbs_ofMicroseconds_le (microseconds : Int) :
    (ofMicroseconds microseconds).natAbs ≤ microseconds.natAbs / 1000000 + 1 := by
  unfold ofMicroseconds
  simp only
  split_ifs
  · rw [Int.natAbs_neg]
    exact_mod_cast divideHalfEven_div_le
  · exact_mod_cast divideHalfEven_div_le

theorem ofMicroseconds_nonneg {microseconds : Int} (nonneg : 0 ≤ microseconds) :
    0 ≤ ofMicroseconds microseconds := by
  unfold ofMicroseconds
  simp only
  rw [if_neg (not_lt.mpr nonneg)]
  positivity

/-- Whole seconds are not rounded. -/
theorem ofMicroseconds_mul (seconds : Int) : ofMicroseconds (seconds * 1000000) = seconds := by
  have size : (seconds * 1000000).natAbs = seconds.natAbs * 1000000 :=
    Int.natAbs_mul seconds 1000000
  unfold ofMicroseconds
  simp only [size]
  rw [← Int.natCast_ediv, divideHalfEven_div_mul (by positivity)]
  split_ifs with negative <;> omega

end Seconds

/-! ### Offsets -/

namespace Zone

theorem offsetAt_eq_of_not_ambiguous {zone : Zone} {clock : Int} (plain : ¬ zone.Ambiguous clock)
    (fold fold' : Bool) : zone.offsetAt clock fold = zone.offsetAt clock fold' := by
  have one : (zone.offsetsAt clock).first = (zone.offsetsAt clock).second := not_not.mp plain
  cases fold <;> cases fold' <;> simp [offsetAt, one]

@[simp] theorem offsetAt_fixed (offset : Offset) (clock : Int) (fold : Bool) :
    (fixed offset).offsetAt clock fold = offset := by
  cases fold <;> rfl

@[simp] theorem instantAt_fixed (offset : Offset) (clock : Int) (fold : Bool) :
    (fixed offset).instantAt clock fold = clock - offset.microseconds := by
  simp [instantAt]

theorem not_ambiguous_fixed (offset : Offset) (clock : Int) : ¬ (fixed offset).Ambiguous clock :=
  not_not.mpr rfl

end Zone

/-! ### Moments -/

namespace Moment

/-- Whether the year is from 1 to 9999 in UTC too. -/
def InUtcYears (moment : Moment) : Prop := Readable moment.unix

instance (moment : Moment) : Decidable moment.InUtcYears :=
  inferInstanceAs (Decidable (Readable _))

/-- Whether the Unix time stands for the moment: it is a whole second of UTC, and it makes no
difference which of two times is meant. -/
def Exact (moment : Moment) : Prop := moment.instant = moment.unix * 1000000 ∧ ¬ moment.Ambiguous

instance (moment : Moment) : Decidable moment.Exact := inferInstanceAs (Decidable (_ ∧ _))

/-- Whether the moment is read from a clock in UTC, as all moments are that the wire carries. -/
def InUtc (moment : Moment) : Prop := moment.zone = Zone.utc

/-- Whether the Unix time stands for the moment, and the moment's own clock shows it at no other
reading. -/
structure Definite (moment : Moment) : Prop where
  exact : moment.Exact
  readOnce : ∀ clock fold, moment.zone.instantAt (clock * 1000000) fold = moment.instant →
    clock = moment.clock

theorem natAbs_unix_le (moment : Moment) : moment.unix.natAbs ≤ 253402387200 := by
  have readable := moment.readable
  have near := (moment.zone.offsetAt (moment.clock * 1000000) moment.fold).lessThanDay
  have rounded := Seconds.natAbs_ofMicroseconds_le moment.instant
  unfold unix
  simp only [instant, Zone.instantAt] at rounded ⊢
  simp only [Readable, earliest, latest] at readable
  simp only [Duration.dayLength] at near
  omega

theorem unix_nonneg {moment : Moment} (positive : 0 < moment.instant) : 0 ≤ moment.unix :=
  Seconds.ofMicroseconds_nonneg positive.le

section

variable {moment : Moment} {offset : Offset} {seconds : Int}

theorem instant_of_fixed (zone : moment.zone = Zone.fixed offset)
    (whole : offset.microseconds = seconds * 1000000) :
    moment.instant = (moment.clock - seconds) * 1000000 := by
  rw [instant, zone, Zone.instantAt_fixed, whole, sub_mul]

theorem unix_of_fixed (zone : moment.zone = Zone.fixed offset)
    (whole : offset.microseconds = seconds * 1000000) : moment.unix = moment.clock - seconds := by
  rw [unix, instant_of_fixed zone whole, Seconds.ofMicroseconds_mul]

/-- A moment on a clock that always is off by the same whole seconds is definite. -/
theorem definite_of_fixed (zone : moment.zone = Zone.fixed offset)
    (whole : offset.microseconds = seconds * 1000000) : moment.Definite := by
  refine ⟨⟨?_, ?_⟩, ?_⟩
  · rw [unix_of_fixed zone whole, instant_of_fixed zone whole]
  · rw [Ambiguous, zone]
    exact Zone.not_ambiguous_fixed offset _
  · intro clock fold same
    rw [instant_of_fixed zone whole, zone, Zone.instantAt_fixed, whole] at same
    omega

theorem InUtc.definite (inUtc : moment.InUtc) : moment.Definite :=
  definite_of_fixed inUtc (zero_mul 1000000).symm

theorem InUtc.unix_eq_clock (inUtc : moment.InUtc) : moment.unix = moment.clock :=
  (unix_of_fixed inUtc (zero_mul 1000000).symm).trans (sub_zero _)

theorem InUtc.inUtcYears (inUtc : moment.InUtc) : moment.InUtcYears := by
  rw [InUtcYears, inUtc.unix_eq_clock]
  exact moment.readable

end

theorem ofUnix?_eq_some_iff {unix : Int} {moment : Moment} :
    ofUnix? unix = some moment ↔ moment.InUtc ∧ moment.fold = false ∧ moment.clock = unix := by
  rw [ofUnix?]
  constructor
  · intro found
    split at found
    · cases found
      exact ⟨rfl, rfl, rfl⟩
    · cases found
  · intro fields
    obtain ⟨clock, fold, zone, readable⟩ := moment
    rcases fields with ⟨inUtc, rfl, rfl⟩
    cases inUtc
    exact dif_pos readable

theorem inUtc_of_ofUnix? {unix : Int} {moment : Moment} (found : ofUnix? unix = some moment) :
    moment.InUtc :=
  (ofUnix?_eq_some_iff.mp found).1

theorem unix_of_ofUnix? {unix : Int} {moment : Moment} (found : ofUnix? unix = some moment) :
    moment.unix = unix := by
  obtain ⟨inUtc, -, clock⟩ := ofUnix?_eq_some_iff.mp found
  exact inUtc.unix_eq_clock.trans clock

/-- Moments of one Unix time, of which the second is definite, are the same exactly if this time
stands for the first one too. -/
theorem same_iff_exact {a b : Moment} (unix : a.unix = b.unix) (definite : b.Definite) :
    a.same b = true ↔ a.Exact := by
  obtain ⟨⟨whole, plain⟩, readOnce⟩ := definite
  unfold same
  split_ifs with zone
  · rw [beq_iff_eq]
    constructor
    · intro clock
      have offset : a.zone.offsetAt (a.clock * 1000000) a.fold =
          b.zone.offsetAt (b.clock * 1000000) b.fold := by
        rw [zone, clock]
        exact Zone.offsetAt_eq_of_not_ambiguous plain _ _
      refine ⟨?_, ?_⟩
      · rw [unix, ← whole, instant, Zone.instantAt, offset, clock]
        rfl
      · rwa [Ambiguous, zone, clock]
    · intro exact
      apply readOnce a.clock a.fold
      rw [whole, ← unix, ← exact.1, ← zone]
      rfl
  · simp only [Bool.and_eq_true, beq_iff_eq, Bool.not_eq_true', decide_eq_false_iff_not]
    constructor
    · intro parts
      obtain ⟨⟨instant, plainA⟩, -⟩ := parts
      exact ⟨by rw [instant, whole, unix], plainA⟩
    · intro exact
      exact ⟨⟨by rw [exact.1, whole, unix], exact.2⟩, plain⟩

/-- The start of the year 2020 on a clock that is half a second ahead of UTC. -/
def halfSecond : Moment := ⟨1577836800, false, Zone.fixed ⟨500000, by decide⟩, by decide⟩

theorem positive_halfSecond : 0 < halfSecond.instant := by decide +kernel

theorem not_exact_halfSecond : ¬ halfSecond.Exact := by decide +kernel

theorem same_self (moment : Moment) : moment.same moment = true := by
  simp [same]

/-! ### Times that may be missing -/

/-- Whether two times have the same Unix time, in whose place zero stands for a missing one. -/
def alike : TimeRelation := fun a b => unixOrZero a == unixOrZero b

theorem alike_iff {a b : Option Moment} : alike a b = true ↔ unixOrZero a = unixOrZero b := by
  simp [alike]

theorem alike_self (moment? : Option Moment) : alike moment? moment? = true := alike_iff.mpr rfl

theorem forall_inUtcYears_iff {moment? : Option Moment} :
    (∀ m ∈ moment?, m.InUtcYears) ↔ Readable (unixOrZero moment?) := by
  cases moment? with
  | none =>
    have start : Readable 0 := by decide
    simp [unixOrZero, start]
  | some moment => simp [InUtcYears, unixOrZero]

theorem sameIfAny_self (moment? : Option Moment) : sameIfAny moment? moment? = true := by
  cases moment? with
  | none => rfl
  | some moment => exact moment.same_self

theorem unix_ne_zero_of_exact {moment : Moment} (positive : 0 < moment.instant)
    (exact : moment.Exact) :
    moment.unix ≠ 0 := by
  intro zero
  rw [exact.1, zero] at positive
  exact lt_irrefl _ positive

/-- Times after the start of 1970 that have the same Unix time, of which the second is definite or
missing, are the same exactly if this time stands for the first one too. -/
theorem sameIfAny_iff_exact {a b : Option Moment} (positive : ∀ m ∈ a, 0 < m.instant)
    (positive' : ∀ m ∈ b, 0 < m.instant) (unix : alike a b = true)
    (definite : ∀ m ∈ b, m.Definite) :
    sameIfAny a b = true ↔ ∀ m ∈ a, m.Exact := by
  rw [alike_iff] at unix
  cases a with
  | none =>
    cases b with
    | none => simp [sameIfAny]
    | some n =>
      exact absurd unix.symm (unix_ne_zero_of_exact (positive' n rfl) (definite n rfl).exact)
  | some m =>
    cases b with
    | none =>
      have inexact : ¬ m.Exact := fun exact => unix_ne_zero_of_exact (positive m rfl) exact unix
      simp [sameIfAny, inexact]
    | some n =>
      simpa [sameIfAny] using same_iff_exact unix (definite n rfl)

end Moment

end LedgerWire
