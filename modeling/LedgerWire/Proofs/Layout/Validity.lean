import LedgerWire.Proofs.Layout.Nesting

/-!
Contract: time bounds as they are stated and changed. Whatever bounds are stated, and however often
they are changed, what is kept are the times stated last without the microseconds of their clocks,
of those that are after the start of 1970, and in order. They can always be written.

They come back from their own encoding as the same bounds exactly if their Unix times stand for
them, UTC can show them and they are in order there. Clocks that are off by a fraction of a second,
or show a time twice, break the first of these: what is cut off are the microseconds of the clock
and not those of UTC. A clock that is behind UTC at the end of the year 9999 breaks the second, and
one that is set back between the bounds the third.

Owns:
- `TimeBounds.Change`, `TimeBounds.statedLast` and `TimeBounds.reach`: bounds after a chain of
  changes;
- what one change keeps of the stated times, and what a chain keeps;
- what becomes of the encoding of any time bounds.

Does not own: bounds that start from the present time.
-/

namespace LedgerWire

open Wire Codec

/-- What is kept of a stated time: the moment without the microseconds of its clock, if it is after
the start of 1970. -/
def DateTime.kept? (t : DateTime) : Option Moment := (Moment.ofDateTime? t).filter (0 < ·.instant)

namespace TimeBounds

/-! ### Times that are stated -/

theorem eq_kept_of_boundAt {t : DateTime} {kept : Option Moment} (accepted : boundAt t = .ok kept) :
    kept = t.kept? := by
  unfold boundAt at accepted
  unfold DateTime.kept?
  cases found : Moment.ofDateTime? t with
  | none => simp [found] at accepted
  | some moment =>
    simp only [found, bound] at accepted
    split_ifs at accepted with before after
    · obtain rfl := Except.ok.inj accepted
      simp [Option.filter, after]
    · obtain rfl := Except.ok.inj accepted
      simp [Option.filter, after]

/-! ### Chains of changes -/

/-- The bounds are what is kept of two stated times, as far as they are stated. -/
structure Keeps (bounds : TimeBounds) (lower upper : Option DateTime) : Prop where
  lower : boundAt? lower = .ok bounds.lower
  upper : boundAt? upper = .ok bounds.upper

theorem parts_of_ofBounds {lower upper : Option Moment} {bounds : TimeBounds}
    (accepted : ofBounds lower upper = .ok bounds) :
    bounds.lower = lower ∧ bounds.upper = upper := by
  unfold ofBounds at accepted
  split_ifs at accepted
  cases accepted
  exact ⟨rfl, rfl⟩

theorem Keeps.of_make {lower upper : Option DateTime} {bounds : TimeBounds}
    (made : make lower upper = .ok bounds) : bounds.Keeps lower upper := by
  unfold make at made
  simp only [Outcome.bind_eq_ok_iff] at made
  obtain ⟨keptLower, lowerAccepted, keptUpper, upperAccepted, together⟩ := made
  obtain ⟨rfl, rfl⟩ := parts_of_ofBounds together
  exact ⟨lowerAccepted, upperAccepted⟩

inductive Side where
  | lower
  | upper
  deriving DecidableEq

/-- A change of time bounds: another time on one side. -/
structure Change where
  side : Side
  time : DateTime
  deriving DecidableEq

def Change.apply (bounds : TimeBounds) (change : Change) : Except Failure TimeBounds :=
  match change.side with
  | .lower => bounds.withLower change.time
  | .upper => bounds.withUpper change.time

/-- The time that is stated on a side after a change. -/
def statedAfter (side : Side) (stated : Option DateTime) (change : Change) : Option DateTime :=
  if change.side = side then some change.time else stated

theorem Keeps.change {bounds after : TimeBounds} {lower upper : Option DateTime}
    (keeps : bounds.Keeps lower upper)
    {change : Change} (changed : change.apply bounds = .ok after) :
    after.Keeps (statedAfter .lower lower change) (statedAfter .upper upper change) := by
  obtain ⟨side, t⟩ := change
  cases side with
  | lower =>
    obtain ⟨kept, accepted, together⟩ := Outcome.bind_eq_ok_iff.mp changed
    obtain ⟨rfl, sameUpper⟩ := parts_of_ofBounds together
    exact ⟨accepted, sameUpper ▸ keeps.upper⟩
  | upper =>
    obtain ⟨kept, accepted, together⟩ := Outcome.bind_eq_ok_iff.mp changed
    obtain ⟨sameLower, rfl⟩ := parts_of_ofBounds together
    exact ⟨sameLower ▸ keeps.lower, accepted⟩

/-- The time that is stated on a side after a chain of changes: the last one, or else the one at its
start. -/
def statedLast (side : Side) (stated : Option DateTime) (changes : List Change) : Option DateTime :=
  changes.foldl (statedAfter side) stated

theorem Keeps.changes {bounds after : TimeBounds} {lower upper : Option DateTime}
    (keeps : bounds.Keeps lower upper)
    {changes : List Change} (changed : changes.foldlM Change.apply bounds = .ok after) :
    after.Keeps (statedLast .lower lower changes) (statedLast .upper upper changes) := by
  induction changes generalizing bounds lower upper with
  | nil =>
    obtain rfl : bounds = after := Except.ok.inj changed
    exact keeps
  | cons first rest inductionHypothesis =>
    rw [List.foldlM_cons, Outcome.bind_eq_ok_iff] at changed
    obtain ⟨between, changedFirst, changedRest⟩ := changed
    exact inductionHypothesis (keeps.change changedFirst) changedRest

/-- The bounds that are reached from stated ones by changes, each of which is accepted. -/
def reach (lower upper : Option DateTime) (changes : List Change) : Except Failure TimeBounds := do
  let bounds ← make lower upper
  changes.foldlM Change.apply bounds

theorem Keeps.of_reach {lower upper : Option DateTime} {changes : List Change} {bounds : TimeBounds}
    (reached : reach lower upper changes = .ok bounds) :
    bounds.Keeps (statedLast .lower lower changes) (statedLast .upper upper changes) := by
  obtain ⟨start, made, changed⟩ := Outcome.bind_eq_ok_iff.mp reached
  exact (Keeps.of_make made).changes changed

theorem eq_kept_of_boundAt? {stated : Option DateTime} {kept : Option Moment}
    (accepted : boundAt? stated = .ok kept) : kept = stated.bind DateTime.kept? := by
  cases stated with
  | none => exact (Except.ok.inj accepted).symm
  | some t => exact eq_kept_of_boundAt accepted

/-! ### Reading back -/

theorem exists_boundOfUnix_eq_error {bound : Option Moment} (positive : ∀ m ∈ bound, 0 < m.instant)
    (outside : ¬ ∀ m ∈ bound, m.InUtcYears) :
    ∃ m ∈ bound, boundOfUnix (Moment.unixOrZero bound) = .error (outOfRange m.unix) := by
  cases bound with
  | none =>
    exfalso
    apply outside
    simp
  | some moment =>
    have unreadable : ¬ Moment.Readable moment.unix := by
      intro readable
      apply outside
      intro m same
      cases same
      exact readable
    have nonzero : moment.unix ≠ 0 := by
      intro zero
      rw [zero] at unreadable
      exact unreadable (by decide)
    have isUnix : Moment.unixOrZero (some moment) = moment.unix := rfl
    refine ⟨moment, rfl, ?_⟩
    simp [boundOfUnix, isUnix, nonzero, Moment.ofUnix?, unreadable]

section

variable {bounds : TimeBounds} {bytes : Bytes}

/-- An encoding is refused if the check of the two Unix times fails. -/
theorem decode_eq_error {failure : Failure} (encoded : codec.encode bounds = .ok bytes)
    (checked : (do
      let lower ← boundOfUnix (Moment.unixOrZero bounds.lower)
      let upper ← boundOfUnix (Moment.unixOrZero bounds.upper)
      ofBounds lower upper) = .error failure) : codec.decode bytes = .error failure := by
  have yields := (faithful_uint64.pair faithful_uint64).yields (encode_eq_ok_iff.mp encoded)
  have refuses : codec.read.Refuses (bytes ++ []) failure :=
    yields.bind_refuses (Reader.refuses_ofExcept checked)
  rw [List.append_nil] at refuses
  exact refuses.readAll

/-- The encoding of bounds that UTC cannot show is refused, for the sake of one of them. -/
theorem exists_decode_eq_error (outside : ¬ bounds.Every Moment.InUtcYears)
    (encoded : codec.encode bounds = .ok bytes) :
    ∃ m, (m ∈ bounds.lower ∨ m ∈ bounds.upper) ∧
      codec.decode bytes = .error (outOfRange m.unix) := by
  by_cases lowerInYears : ∀ m ∈ bounds.lower, m.InUtcYears
  · have upperOutside : ¬ ∀ m ∈ bounds.upper, m.InUtcYears := by
      intro upperInYears
      exact outside ⟨lowerInYears, upperInYears⟩
    obtain ⟨lower, readLower⟩ := exists_boundOfUnix lowerInYears
    obtain ⟨m, isUpper, failed⟩ := exists_boundOfUnix_eq_error bounds.proper.2.1 upperOutside
    refine ⟨m, Or.inr isUpper, decode_eq_error encoded ?_⟩
    rw [readLower, failed]
    rfl
  · obtain ⟨m, isLower, failed⟩ := exists_boundOfUnix_eq_error bounds.proper.1 lowerInYears
    refine ⟨m, Or.inl isLower, decode_eq_error encoded ?_⟩
    rw [failed]
    rfl

/-- The encoding of bounds that are not in order in UTC is refused as that of the bounds that it is
read to. -/
theorem decode_eq_reversed (inYears : bounds.Every Moment.InUtcYears)
    (outOfOrder : ¬ bounds.InOrder)
    (encoded : codec.encode bounds = .ok bytes) :
    codec.decode bytes = .error (reversed (Moment.ofUnix? (Moment.unixOrZero bounds.lower))
      (Moment.ofUnix? (Moment.unixOrZero bounds.upper))) := by
  have nonneg := unixOrZero_nonneg bounds.proper.1
  have nonneg' := unixOrZero_nonneg bounds.proper.2.1
  obtain ⟨lower, readLower⟩ := exists_boundOfUnix inYears.1
  obtain ⟨upper, readUpper⟩ := exists_boundOfUnix inYears.2
  have improper : ¬ Proper lower upper := by
    rwa [proper_iff_of_boundOfUnix nonneg nonneg' readLower readUpper]
  have later : Moment.unixOrZero bounds.upper ≠ 0 ∧ Moment.unixOrZero bounds.lower ≠ 0 := by
    unfold InOrder at outOfOrder
    omega
  have isLower : lower = Moment.ofUnix? (Moment.unixOrZero bounds.lower) := by
    rcases boundOfUnix_eq_ok_iff.mp readLower with ⟨zero, -⟩ | ⟨-, moment, found, rfl⟩
    · exact absurd zero later.2
    · exact found.symm
  have isUpper : upper = Moment.ofUnix? (Moment.unixOrZero bounds.upper) := by
    rcases boundOfUnix_eq_ok_iff.mp readUpper with ⟨zero, -⟩ | ⟨-, moment, found, rfl⟩
    · exact absurd zero later.1
    · exact found.symm
  apply decode_eq_error encoded
  rw [readLower, readUpper, ← isLower, ← isUpper]
  exact dif_neg improper

theorem exists_decode_eq_ok (decodable : bounds.Decodable)
    (encoded : codec.encode bounds = .ok bytes) :
    ∃ again, codec.decode bytes = .ok again ∧ bounds.sameBy Moment.alike again = true ∧
      (bounds.same again = true ↔ bounds.Every Moment.Exact) := by
  obtain ⟨again, yields, -, alike⟩ :=
    lawful_codec.exists_yields_same decodable (encode_eq_ok_iff.mp encoded)
  refine ⟨again, lawful_codec.decode_eq_ok_iff_yields.mpr yields, alike, ?_⟩
  exact same_iff_exact alike ((reads_codec.of_yields yields).mono fun _ => Moment.InUtc.definite)

end

/-- Bounds that are reached are what is kept of the times stated last, and in order; they can be
written. What is written comes back with the same Unix times if UTC can show both bounds and they
are in order there, and then as the same bounds exactly if these Unix times stand for them;
otherwise it is refused. -/
theorem decode_encode_of_reach
    {lower upper : Option DateTime}
    {changes : List Change}
    {bounds : TimeBounds}
    (reached : reach lower upper changes = .ok bounds) :
    bounds.lower = (statedLast .lower lower changes).bind DateTime.kept? ∧
      bounds.upper = (statedLast .upper upper changes).bind DateTime.kept? ∧
      Proper bounds.lower bounds.upper ∧
      ∃ bytes, codec.encode bounds = .ok bytes ∧
        if bounds.Every Moment.InUtcYears then
          if bounds.InOrder then
            ∃ again, codec.decode bytes = .ok again ∧ bounds.sameBy Moment.alike again = true ∧
              (bounds.same again = true ↔ bounds.Every Moment.Exact)
          else
            codec.decode bytes = .error (reversed (Moment.ofUnix? (Moment.unixOrZero bounds.lower))
              (Moment.ofUnix? (Moment.unixOrZero bounds.upper)))
        else
          ∃ m, (m ∈ bounds.lower ∨ m ∈ bounds.upper) ∧
            codec.decode bytes = .error (outOfRange m.unix) := by
  have keeps := Keeps.of_reach reached
  obtain ⟨bytes, encoded⟩ := exists_encode_iff.mpr bounds.writable_codec
  refine ⟨eq_kept_of_boundAt? keeps.lower, eq_kept_of_boundAt? keeps.upper, bounds.proper, bytes,
    encoded, ?_⟩
  split_ifs with inYears inOrder
  · exact exists_decode_eq_ok ⟨inYears, inOrder⟩ encoded
  · exact decode_eq_reversed inYears inOrder encoded
  · exact exists_decode_eq_error inYears encoded

/-- Half a second into 1970. -/
def epochStart : DateTime := ⟨⟨1970, 1, 1⟩, 0, 0, 0, 500000, none, false⟩

/-- The last second of the year 9999 on a clock an hour behind UTC. -/
def yearsEnd : DateTime :=
  ⟨⟨9999, 12, 31⟩, 23, 59, 59, 0, some (Zone.fixed ⟨-3600000000, by decide⟩), false⟩

/-- Bounds that are accepted and written and that are not read back. -/
theorem decode_encode_of_reach_yearsEnd :
    ∃ bounds bytes, reach (some epochStart) none [⟨.upper, yearsEnd⟩] = .ok bounds ∧
      codec.encode bounds = .ok bytes ∧
        codec.decode bytes = .error (outOfRange 253402304399) := by
  let last : Moment := ⟨Moment.latest, false, Zone.fixed ⟨-3600000000, by decide⟩, by decide⟩
  have reached : ∃ bounds, reach (some epochStart) none [⟨.upper, yearsEnd⟩] = .ok bounds ∧
      bounds.lower = none ∧ bounds.upper = some last := ⟨_, rfl, rfl, rfl⟩
  obtain ⟨bounds, reached, lower, upper⟩ := reached
  have behind : last.unix = Moment.latest - -3600 :=
    Moment.unix_of_fixed rfl (show (-3600000000 : Int) = -3600 * 1000000 by decide)
  have unix : last.unix = 253402304399 := behind.trans (by decide)
  obtain ⟨-, -, -, bytes, encoded, result⟩ := decode_encode_of_reach reached
  have outside : ¬ bounds.Every Moment.InUtcYears := by
    intro inYears
    have inUtc : Moment.Readable last.unix := inYears.2 last upper
    rw [unix] at inUtc
    exact absurd inUtc (by decide)
  rw [if_neg outside] at result
  obtain ⟨m, isBound, refused⟩ := result
  refine ⟨bounds, bytes, reached, encoded, ?_⟩
  rw [lower, upper] at isBound
  rcases isBound with isLower | isUpper
  · cases isLower
  · cases isUpper
    rwa [unix] at refused

/-- A zone whose clock is set back from two to one in the night of the first of November 2020, when
it goes from four to five hours behind UTC. -/
def autumn : Zone :=
  let before : Offset := ⟨-14400000000, by decide⟩
  let after : Offset := ⟨-18000000000, by decide⟩
  ⟨1, ⟨before, before⟩,
    [(1604192400000000, ⟨before, after⟩), (1604196000000000, ⟨after, after⟩)], none⟩

/-- A time in that night, after one. -/
def afterOne (minute : Nat) (again : Bool) : DateTime :=
  ⟨⟨2020, 11, 1⟩, 1, minute, 0, 0, some autumn, again⟩

-- on that clock half past one is before a quarter to two, also when it is shown again
example : ∃ bounds, make (some (afterOne 30 true)) (some (afterOne 45 false)) = .ok bounds ∧
    ¬ bounds.InOrder :=
  ⟨_, rfl, by decide +kernel⟩

end TimeBounds

end LedgerWire
