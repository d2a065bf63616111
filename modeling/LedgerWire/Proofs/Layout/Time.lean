import LedgerWire.Proofs.Calendar.Moment
import LedgerWire.Proofs.Wire.Property
import LedgerWire.TimeBounds

/-!
Contract: the layout of time bounds. The wire carries Unix times and no clocks, and zero for no
bound, so what is read are bounds on clocks in UTC at the same Unix times; they are read if these
clocks can show them and they still are in order.

Owns:
- `TimeBounds.Every`, a property of both bounds, and `TimeBounds.InOrder`;
- the law of `TimeBounds.codec`, up to equality of Unix times;
- when bounds are the same as others that have the same Unix times.

Does not own: deadlines in conditions of claims.
-/

namespace LedgerWire

open Wire Codec

namespace TimeBounds

/-- Whether both bounds, as far as there are any, have a property. -/
def Every (P : Moment → Prop) (bounds : TimeBounds) : Prop :=
  (∀ m ∈ bounds.lower, P m) ∧ (∀ m ∈ bounds.upper, P m)

instance (P : Moment → Prop) [DecidablePred P] (bounds : TimeBounds) : Decidable (bounds.Every P) :=
  inferInstanceAs (Decidable (_ ∧ _))

theorem Every.mono {P Q : Moment → Prop} (implies : ∀ m, P m → Q m) {bounds : TimeBounds}
    (every : bounds.Every P) : bounds.Every Q :=
  ⟨fun m isLower => implies m (every.1 m isLower), fun m isUpper => implies m (every.2 m isUpper)⟩

/-- Whether the Unix times of the bounds are in order. An upper bound in the first second of 1970 is
written as zero, which stands for none. -/
def InOrder (bounds : TimeBounds) : Prop :=
  Moment.unixOrZero bounds.lower ≤ Moment.unixOrZero bounds.upper ∨
    Moment.unixOrZero bounds.upper = 0

instance (bounds : TimeBounds) : Decidable bounds.InOrder := inferInstanceAs (Decidable (_ ∨ _))

/-- Whether bounds are read back: UTC can show both, and they are in order there. -/
def Decodable (bounds : TimeBounds) : Prop := bounds.Every Moment.InUtcYears ∧ bounds.InOrder

instance (bounds : TimeBounds) : Decidable bounds.Decodable := inferInstanceAs (Decidable (_ ∧ _))

/-! ### Bounds on the wire -/

/-- Zero stands for no bound, and every other Unix time for the bound at which a clock in UTC shows
it. -/
theorem boundOfUnix_eq_ok_iff {unix : Int} {bound : Option Moment} :
    boundOfUnix unix = .ok bound ↔
      unix = 0 ∧ bound = none ∨
        unix ≠ 0 ∧ ∃ moment, Moment.ofUnix? unix = some moment ∧ bound = some moment := by
  unfold boundOfUnix
  split_ifs with isZero
  · simp [isZero, eq_comm]
  · cases found : Moment.ofUnix? unix with
    | none => simp [isZero]
    | some moment => simp [isZero, eq_comm]

theorem unixOrZero_of_boundOfUnix {unix : Int} {bound : Option Moment}
    (accepted : boundOfUnix unix = .ok bound) : Moment.unixOrZero bound = unix := by
  rcases boundOfUnix_eq_ok_iff.mp accepted with ⟨rfl, rfl⟩ | ⟨-, moment, found, rfl⟩
  · rfl
  · exact Moment.unix_of_ofUnix? found

theorem inUtc_of_boundOfUnix {unix : Int} {bound : Option Moment}
    (accepted : boundOfUnix unix = .ok bound) : ∀ m ∈ bound, m.InUtc := by
  rcases boundOfUnix_eq_ok_iff.mp accepted with ⟨-, none⟩ | ⟨-, moment, found, rfl⟩
  · simp [none]
  · intro m same
    cases same
    exact Moment.inUtc_of_ofUnix? found

/-- A bound that UTC can show is a bound again. -/
theorem exists_boundOfUnix {bound : Option Moment} (inYears : ∀ m ∈ bound, m.InUtcYears) :
    ∃ again, boundOfUnix (Moment.unixOrZero bound) = .ok again := by
  by_cases isZero : Moment.unixOrZero bound = 0
  · exact ⟨none, boundOfUnix_eq_ok_iff.mpr (Or.inl ⟨isZero, rfl⟩)⟩
  · cases bound with
    | none => exact absurd rfl isZero
    | some moment =>
      exact ⟨some _,
        boundOfUnix_eq_ok_iff.mpr (Or.inr ⟨isZero, _, dif_pos (inYears moment rfl), rfl⟩)⟩

theorem unixOrZero_nonneg {bound : Option Moment} (positive : ∀ m ∈ bound, 0 < m.instant) :
    0 ≤ Moment.unixOrZero bound := by
  cases bound with
  | none => exact le_rfl
  | some moment => exact Moment.unix_nonneg (positive moment rfl)

/-- What is read of two Unix times is in order exactly if they are, or there is no upper bound. -/
theorem proper_iff_of_boundOfUnix {lowerUnix upperUnix : Int} {lower upper : Option Moment}
    (nonneg : 0 ≤ lowerUnix) (nonneg' : 0 ≤ upperUnix)
    (readLower : boundOfUnix lowerUnix = .ok lower)
    (readUpper : boundOfUnix upperUnix = .ok upper) :
    Proper lower upper ↔ lowerUnix ≤ upperUnix ∨ upperUnix = 0 := by
  have positive {unix : Int} {bound : Option Moment} (nonneg : 0 ≤ unix)
      (accepted : boundOfUnix unix = .ok bound) : ∀ m ∈ bound, 0 < m.instant := by
    rcases boundOfUnix_eq_ok_iff.mp accepted with ⟨-, none⟩ | ⟨nonzero, moment, found, rfl⟩
    · simp [none]
    · intro m same
      cases same
      rw [(Moment.inUtc_of_ofUnix? found).definite.exact.1, Moment.unix_of_ofUnix? found]
      omega
  unfold Proper
  rw [and_iff_right (positive nonneg readLower), and_iff_right (positive nonneg' readUpper)]
  rcases boundOfUnix_eq_ok_iff.mp readLower with ⟨zero, none⟩ | ⟨-, m, found, rfl⟩
  · simp [none, zero, nonneg']
  rcases boundOfUnix_eq_ok_iff.mp readUpper with ⟨zero, none⟩ | ⟨nonzero, n, found', rfl⟩
  · simp [none, zero]
  obtain ⟨inUtc, -, clock⟩ := Moment.ofUnix?_eq_some_iff.mp found
  obtain ⟨inUtc', -, clock'⟩ := Moment.ofUnix?_eq_some_iff.mp found'
  have sameZone : n.zone = m.zone := inUtc'.trans inUtc.symm
  simp [Moment.before, sameZone, clock, clock', nonzero]

/-- Only the Unix times decide on what is read back. -/
theorem decodable_congr {a b : TimeBounds} (alike : a.sameBy Moment.alike b = true) :
    a.Decodable ↔ b.Decodable := by
  rw [sameBy, Bool.and_eq_true, Moment.alike_iff, Moment.alike_iff] at alike
  unfold Decodable Every InOrder
  rw [Moment.forall_inUtcYears_iff, Moment.forall_inUtcYears_iff, Moment.forall_inUtcYears_iff,
    Moment.forall_inUtcYears_iff, alike.1, alike.2]

/-- Bounds in UTC are in order, as bounds always are on one clock. -/
theorem inOrder_of_inUtc {bounds : TimeBounds} (inUtc : bounds.Every Moment.InUtc) :
    bounds.InOrder := by
  have ordered := bounds.proper.2.2
  have nonneg := unixOrZero_nonneg bounds.proper.2.1
  unfold InOrder
  cases isLower : bounds.lower with
  | none => exact Or.inl nonneg
  | some m =>
    cases isUpper : bounds.upper with
    | none => exact Or.inr rfl
    | some n =>
      have lowerUtc := inUtc.1 m isLower
      have upperUtc := inUtc.2 n isUpper
      have notBefore := ordered m isLower n isUpper
      have sameZone : n.zone = m.zone := upperUtc.trans lowerUtc.symm
      rw [Moment.before, if_pos sameZone, decide_eq_false_iff_not, not_lt] at notBefore
      refine Or.inl ?_
      show m.unix ≤ n.unix
      rwa [lowerUtc.unix_eq_clock, upperUtc.unix_eq_clock]

theorem decodable_of_inUtc {bounds : TimeBounds} (inUtc : bounds.Every Moment.InUtc) :
    bounds.Decodable :=
  ⟨inUtc.mono fun _ => Moment.InUtc.inUtcYears, inOrder_of_inUtc inUtc⟩

/-! ### The law -/

theorem lawful_codec :
    TimeBounds.codec.Lawful (fun a b => a.sameBy Moment.alike b = true) Decodable := by
  refine (Lawful.refine (faithful_uint64.pair faithful_uint64) ?_ (fun _ _ => trivial) ?_).mono ?_
    fun _ decodable => decodable
  · intro unixes bounds _ _ accepted
    rcases unixes with ⟨lowerUnix, upperUnix⟩
    simp only [Outcome.bind_eq_ok_iff, ofBounds] at accepted
    rcases accepted with ⟨lower, lowerAccepted, upper, upperAccepted, accepted⟩
    split_ifs at accepted
    cases accepted
    rw [unixOrZero_of_boundOfUnix lowerAccepted, unixOrZero_of_boundOfUnix upperAccepted]
  · intro bounds unixes _ decodable _ same
    subst same
    rcases decodable with ⟨⟨lowerYears, upperYears⟩, inOrder⟩
    rcases exists_boundOfUnix lowerYears with ⟨lower, lowerAccepted⟩
    rcases exists_boundOfUnix upperYears with ⟨upper, upperAccepted⟩
    have proper : Proper lower upper :=
      (proper_iff_of_boundOfUnix (unixOrZero_nonneg bounds.proper.1)
        (unixOrZero_nonneg bounds.proper.2.1)
        lowerAccepted upperAccepted).mpr inOrder
    refine ⟨⟨lower, upper, proper⟩, ?_⟩
    rw [Outcome.bind_eq_ok_iff]
    refine ⟨lower, lowerAccepted, ?_⟩
    rw [Outcome.bind_eq_ok_iff]
    exact ⟨upper, upperAccepted, dif_pos proper⟩
  · intro a b unix
    rcases Prod.mk.inj unix with ⟨lower, upper⟩
    rw [sameBy, Bool.and_eq_true]
    exact ⟨Moment.alike_iff.mpr lower, Moment.alike_iff.mpr upper⟩

/-- Bounds that are read are on clocks in UTC. -/
theorem reads_codec : TimeBounds.codec.Reads (Every Moment.InUtc) := by
  refine Reads.refine (reads_of_forall _ fun _ => trivial) ?_
  intro unixes bounds _ accepted
  rcases unixes with ⟨lowerUnix, upperUnix⟩
  simp only [Outcome.bind_eq_ok_iff, ofBounds] at accepted
  rcases accepted with ⟨lower, lowerAccepted, upper, upperAccepted, accepted⟩
  split_ifs at accepted
  cases accepted
  exact ⟨inUtc_of_boundOfUnix lowerAccepted, inUtc_of_boundOfUnix upperAccepted⟩

/-- Bounds are the same as definite ones with the same Unix times exactly if these stand for
them. -/
theorem same_iff_exact {a b : TimeBounds} (alike : a.sameBy Moment.alike b = true)
    (definite : b.Every Moment.Definite) :
    a.sameBy Moment.sameIfAny b = true ↔ a.Every Moment.Exact := by
  rw [sameBy, Bool.and_eq_true] at alike
  rw [sameBy, Bool.and_eq_true, Moment.sameIfAny_iff_exact a.proper.1 b.proper.1 alike.1 definite.1,
    Moment.sameIfAny_iff_exact a.proper.2.1 b.proper.2.1 alike.2 definite.2]
  rfl

/-- The bounds of what is valid until a moment. -/
def validUntil (moment : Moment) (positive : 0 < moment.instant) : TimeBounds :=
  ⟨none, some moment, by simpa [Proper] using positive⟩

end TimeBounds

end LedgerWire
