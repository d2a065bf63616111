import LedgerWire.Proofs.Layout.Claim
import LedgerWire.Proofs.Layout.Writable

/-!
Contract: how deep a condition may be nested. Writing goes down to the leaves of any tree, reading
does not go below the limit, so a condition comes back from its own encoding down to the limit and
is refused below it, and then with the account that it is nested too deeply, whatever stands beside
the branch that goes too far.

Owns:
- `Reader.Refuses`: a reader fails on some bytes wherever these stand;
- what becomes of the encoding of a condition of any depth.

Does not own: deadlines that UTC cannot show, and those that their Unix times do not stand for.
-/

namespace LedgerWire

open Wire Codec

/-! ### Readers that fail on the same bytes anywhere -/

namespace Wire.Reader

variable {α β : Type}

/-- The reader fails in this way on an input that starts with these bytes, wherever they stand and
whatever follows. -/
def Refuses (reader : Reader α) (front : Bytes) (failure : Failure) : Prop :=
  ∀ offset rest, ∃ after, reader.run ⟨offset, front ++ rest⟩ = .error failure after

theorem refuses_throw (front : Bytes) (failure : Failure) :
    Refuses (throw failure : Reader α) front failure := by
  intro offset rest
  exact ⟨⟨offset, front ++ rest⟩, rfl⟩

theorem refuses_ofExcept {result : Except Failure α} {failure : Failure}
    (refused : result = .error failure) :
    Refuses (ofExcept result) [] failure := by
  subst refused
  exact refuses_throw [] failure

theorem Refuses.bind {reader : Reader α} {front : Bytes} {failure : Failure}
    (refuses : Refuses reader front failure)
    (next : α → Reader β) (back : Bytes) : Refuses (reader >>= next) (front ++ back) failure := by
  intro offset rest
  rcases refuses offset (back ++ rest) with ⟨after, run⟩
  rw [List.append_assoc]
  exact ⟨after, Outcome.run_bind_of_error run⟩

theorem Yields.bind_refuses {reader : Reader α} {next : α → Reader β}
    {front back : Bytes} {value : α}
    {failure : Failure} (first : Yields reader front value)
    (second : Refuses (next value) back failure) :
    Refuses (reader >>= next) (front ++ back) failure := by
  intro offset rest
  rcases second (offset + front.length) rest with ⟨after, run⟩
  refine ⟨after, ?_⟩
  rw [List.append_assoc, Outcome.run_bind_of_ok (first offset (back ++ rest))]
  exact run

theorem Refuses.readAll {reader : Reader α} {input : Bytes} {failure : Failure}
    (refuses : Refuses reader input failure) : reader.readAll input = .error failure := by
  rcases refuses 0 [] with ⟨after, run⟩
  rw [List.append_nil] at run
  rw [readAll_eq]
  unfold runFrom Cursor.start
  rw [run]

end Wire.Reader

namespace ClaimPredicate

/-! ### Below the limit -/

/-- What is said of a condition with a branch below the limit. -/
def tooDeep : Failure := malformed "claim predicate nested too deeply" none

/-- A condition is refused at the root if what stands after the number of its kind is refused. -/
theorem refuses_of_content {predicate : ClaimPredicate} {levels : Nat} {bytes : Bytes}
    {failure : Failure}
    (content : ∀ {back : Bytes}, predicate.writeContent = .done back →
      (readContent (readLevels levels) predicate.kind.number).Refuses back failure)
    (written : predicate.write = .done bytes) :
    (readLevels (levels + 1)).Refuses bytes failure := by
  rw [write_eq] at written
  rcases Output.append_eq_done_iff.mp written with ⟨tag, back, writtenTag, writtenContent, rfl⟩
  rw [readLevels_succ]
  exact (faithful_int32.yields writtenTag).bind_refuses (content writtenContent)

/-- Of two branches the first is too deep, or the first is read and the second is too deep. -/
theorem refuses_branches {name : String} {join : ClaimPredicate → ClaimPredicate → ClaimPredicate}
    {left right : ClaimPredicate} {levels : Nat} {bytes : Bytes}
    (deep : levels ≤ max left.depth right.depth)
    (leftYears : left.Every Moment.InUtcYears)
    (leftLaw : ∀ {front : Bytes}, levels ≤ left.depth → left.write = .done front →
      (readLevels levels).Refuses front tooDeep)
    (rightLaw : ∀ {back : Bytes}, levels ≤ right.depth → right.write = .done back →
      (readLevels levels).Refuses back tooDeep)
    (written : Codec.uint32.write 2 ++ (left.write ++ right.write) = .done bytes) :
    (readPair name (readLevels levels) join).Refuses bytes tooDeep := by
  rcases Output.append_eq_done_iff.mp written with ⟨count, both, writtenCount, writtenBoth, rfl⟩
  rcases Output.append_eq_done_iff.mp writtenBoth with ⟨front, back, writtenLeft, writtenRight, rfl⟩
  apply (faithful_uint32.yields writtenCount).bind_refuses
  rw [if_pos rfl]
  by_cases leftDeep : levels ≤ left.depth
  · exact (leftLaw leftDeep writtenLeft).bind _ back
  · have shallow : left.depth < levels := not_le.mp leftDeep
    obtain ⟨below, rfl⟩ := Nat.exists_eq_add_one_of_ne_zero (Nat.ne_zero_of_lt shallow)
    obtain ⟨first, yields⟩ :=
      exists_yields_readLevels (Nat.le_of_lt_succ shallow) leftYears writtenLeft
    have refuses := rightLaw (by omega) writtenRight
    have refusesJoined := refuses.bind (fun second => return join first second) []
    rw [List.append_nil] at refusesJoined
    exact yields.bind_refuses refusesJoined

/-- What is written of a condition is refused by as many levels as it has below its root, or
fewer. -/
theorem refuses_readLevels {predicate : ClaimPredicate} {levels : Nat} {bytes : Bytes}
    (deep : levels ≤ predicate.depth) (inYears : predicate.Every Moment.InUtcYears)
    (written : predicate.write = .done bytes) :
    (readLevels levels).Refuses bytes tooDeep := by
  -- As for what is read back, a level of the reader is used up with each level of the condition.
  induction predicate generalizing levels bytes with
  | unconditional =>
    obtain rfl : levels = 0 := Nat.le_zero.mp deep
    exact Reader.refuses_throw bytes tooDeep
  | and left right leftLaw rightLaw =>
    cases levels with
    | zero => exact Reader.refuses_throw bytes tooDeep
    | succ levels =>
      refine refuses_of_content ?_ written
      intro back content
      exact refuses_branches (Nat.le_of_succ_le_succ deep) inYears.1
        (fun leftDeep => leftLaw leftDeep inYears.1)
        (fun rightDeep => rightLaw rightDeep inYears.2) content
  | or left right leftLaw rightLaw =>
    cases levels with
    | zero => exact Reader.refuses_throw bytes tooDeep
    | succ levels =>
      refine refuses_of_content ?_ written
      intro back content
      exact refuses_branches (Nat.le_of_succ_le_succ deep) inYears.1
        (fun leftDeep => leftLaw leftDeep inYears.1)
        (fun rightDeep => rightLaw rightDeep inYears.2) content
  | not inner innerLaw =>
    cases levels with
    | zero => exact Reader.refuses_throw bytes tooDeep
    | succ levels =>
      refine refuses_of_content ?_ written
      intro back content
      rcases Output.append_eq_done_iff.mp content with ⟨flag, front, writtenFlag, writtenInner, rfl⟩
      have refuses := innerLaw (Nat.le_of_succ_le_succ deep) inYears writtenInner
      apply (faithful_bool.yields writtenFlag).bind_refuses
      have refusesNegation := refuses.bind (fun inner => return ClaimPredicate.not inner) []
      rwa [List.append_nil] at refusesNegation
  | beforeAbsolute deadline =>
    obtain rfl : levels = 0 := Nat.le_zero.mp deep
    exact Reader.refuses_throw bytes tooDeep
  | beforeRelative span =>
    obtain rfl : levels = 0 := Nat.le_zero.mp deep
    exact Reader.refuses_throw bytes tooDeep

/-! ### Whole conditions -/

/-- A condition whose deadlines UTC can show is refused as nested too deeply if it is nested more
than 32 levels below its root. Otherwise it comes back from its encoding with the same Unix times,
and as the same condition if these stand for its deadlines. -/
theorem decode_encode_to_limit
    {predicate : ClaimPredicate}
    {bytes : Bytes}
    (inYears : predicate.Every Moment.InUtcYears)
    (encoded : codec.encode predicate = .ok bytes) :
    if predicate.depth ≤ 32 then
      ∃ again, codec.decode bytes = .ok again ∧ predicate.sameBy Moment.alike again = true ∧
        (predicate.Every Moment.Exact → predicate.same again = true)
    else
      codec.decode bytes = .error (malformed "claim predicate nested too deeply" none) := by
  have written := encode_eq_ok_iff.mp encoded
  split_ifs with shallow
  · rcases lawful_codec.exists_yields_same ⟨shallow, inYears⟩ written with ⟨again, yields, -, alike⟩
    refine ⟨again, lawful_codec.decode_eq_ok_iff_yields.mpr yields, alike, ?_⟩
    exact (same_iff_exact alike
      ((reads_codec.of_yields yields).2.mono fun _ => Moment.InUtc.definite)).mpr
  · have deep : maxDepth + 1 ≤ predicate.depth := not_le.mp shallow
    exact (refuses_readLevels deep inYears written).readAll

/-- The last second of the year 9999 in UTC, read from a clock two hours behind. -/
def lastSecond : Moment :=
    ⟨Moment.latest - 7200, false, Zone.fixed ⟨-7200000000, by decide⟩, by decide⟩

/-- The last second beside the greatest length of time, under 31 negations. -/
def deepest : ClaimPredicate :=
  not^[31] (.and (.beforeAbsolute lastSecond) (.beforeRelative ⟨Span.greatest, by decide⟩))

theorem decode_encode_to_limit_deepest :
    deepest.Every Moment.InUtcYears ∧ ∃ bytes, codec.encode deepest = .ok bytes ∧
      ∃ again, codec.decode bytes = .ok again ∧ deepest.same again = true := by
  have inYears : deepest.Every Moment.InUtcYears := by
    refine ⟨?_, trivial⟩
    show Moment.Readable lastSecond.unix
    rw [Moment.unix_of_fixed rfl (show (-7200000000 : Int) = -7200 * 1000000 by decide)]
    decide
  have exact : deepest.Every Moment.Exact := by
    refine ⟨?_, trivial⟩
    exact (Moment.definite_of_fixed rfl
      (show (-7200000000 : Int) = -7200 * 1000000 by decide)).exact
  rcases deepest.writable_codec with ⟨bytes, written⟩
  have encoded := encode_eq_ok_iff.mpr written
  refine ⟨inYears, bytes, encoded, ?_⟩
  have result := decode_encode_to_limit inYears encoded
  rw [if_pos (by decide : deepest.depth ≤ 32)] at result
  obtain ⟨again, decoded, -, same⟩ := result
  exact ⟨again, decoded, same exact⟩

/-- Not every condition that can be encoded comes back: under 33 negations none does. -/
theorem not_decode_encode_of_depth33 :
    ¬ ∀ bytes, codec.encode (not^[33] .unconditional) = .ok bytes →
      ∃ again, codec.decode bytes = .ok again ∧ (not^[33] .unconditional).same again = true := by
  intro comesBack
  have writable : codec.Writable (not^[33] .unconditional) := writable_codec _
  rcases writable with ⟨bytes, written⟩
  rcases comesBack bytes (encode_eq_ok_iff.mpr written) with ⟨again, decoded, -⟩
  have refused : codec.decode bytes = .error tooDeep :=
    (refuses_readLevels (by decide : maxDepth + 1 ≤ (not^[33] .unconditional).depth) trivial
      written).readAll
  rw [refused] at decoded
  cases decoded

end ClaimPredicate

end LedgerWire
