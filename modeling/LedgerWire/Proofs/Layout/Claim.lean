import LedgerWire.Claim.Predicate
import LedgerWire.Proofs.Layout.Time

/-!
Contract: the layout of conditions on claims. Writers do not limit the depth of a condition and
readers do, so what is written tells the condition at any depth, but is read back only down to the
limit.

Owns:
- `ClaimPredicate.Every`, a property of all deadlines, and `ClaimPredicate.Decodable`, the
  conditions that are read back;
- `ClaimPredicate.Related`, two conditions of one shape with related deadlines;
- the law of `ClaimPredicate.codec`, up to equality of Unix times;
- when a condition is the same as another one that has the same Unix times.

Does not own: who claims.
-/

namespace LedgerWire

open Wire Codec

theorem Span.ofSeconds?_eq_some_iff {seconds : Int} {span : Span} :
    Span.ofSeconds? seconds = some span ↔ span.seconds = seconds := by
  rw [Span.ofSeconds?]
  constructor
  · intro found
    split at found
    · cases found
      rfl
    · cases found
  · intro same
    subst same
    rw [dif_pos span.inRange]

theorem ClaimPredicateKind.number_injective : Function.Injective ClaimPredicateKind.number := by
  intro a b same
  cases a <;> cases b <;> first | rfl | cases same

namespace ClaimPredicate

/-- Whether every deadline has a property. -/
def Every (P : Moment → Prop) : ClaimPredicate → Prop
  | .and left right => left.Every P ∧ right.Every P
  | .or left right => left.Every P ∧ right.Every P
  | .not inner => inner.Every P
  | .beforeAbsolute deadline => P deadline
  | .unconditional => True
  | .beforeRelative _ => True

theorem Every.mono {P Q : Moment → Prop} (implies : ∀ m, P m → Q m) {predicate : ClaimPredicate}
    (every : predicate.Every P) : predicate.Every Q := by
  induction predicate with
  | unconditional => exact trivial
  | and left right leftLaw rightLaw => exact ⟨leftLaw every.1, rightLaw every.2⟩
  | or left right leftLaw rightLaw => exact ⟨leftLaw every.1, rightLaw every.2⟩
  | not inner innerLaw => exact innerLaw every
  | beforeAbsolute deadline => exact implies deadline every
  | beforeRelative span => exact trivial

/-! ### A kind and what follows it -/

/-- What is written after the number of the kind. -/
def writeContent : ClaimPredicate → Output
  | .unconditional => Output.done []
  | .and left right => Codec.uint32.write 2 ++ (left.write ++ right.write)
  | .or left right => Codec.uint32.write 2 ++ (left.write ++ right.write)
  | .not inner => Codec.bool.write true ++ inner.write
  | .beforeAbsolute deadline => Codec.int64.write deadline.unix
  | .beforeRelative span => Codec.int64.write span.seconds

/-- What is read after the number of a kind, the branches by the given reader. -/
def readContent (branch : Reader ClaimPredicate) (kind : Int) : Reader ClaimPredicate :=
  if kind = 0 then
    pure .unconditional
  else if kind = 1 then
    readPair "AND" branch .and
  else if kind = 2 then
    readPair "OR" branch .or
  else if kind = 3 then do
    if ← Codec.bool.read then
      return .not (← branch)
    else
      throw (malformed "NOT predicate without child" none)
  else if kind = 4 then do
    Reader.ofExcept (deadlineOfUnix (← Codec.int64.read))
  else if kind = 5 then do
    Reader.ofExcept (spanOfSeconds (← Codec.int64.read))
  else
    throw (Failure.xdrBecause s!"unknown claim predicate type: {kind}"
      s!"{kind} is not a valid ClaimPredicateType")

theorem write_eq (predicate : ClaimPredicate) :
    predicate.write = Codec.int32.write predicate.kind.number ++ predicate.writeContent := by
  cases predicate <;> rfl

theorem readLevels_succ (levels : Nat) :
    readLevels (levels + 1) = Codec.int32.read >>= readContent (readLevels levels) := rfl

/-! ### Deadlines -/

theorem eq_of_deadlineOfUnix {unix : Int} {predicate : ClaimPredicate}
    (accepted : deadlineOfUnix unix = .ok predicate) :
    ∃ deadline, predicate = .beforeAbsolute deadline ∧ deadline.unix = unix ∧ deadline.InUtc := by
  rw [deadlineOfUnix] at accepted
  cases found : Moment.ofUnix? unix with
  | none => simp [found] at accepted
  | some deadline =>
    obtain rfl : .beforeAbsolute deadline = predicate := by simpa [found] using accepted
    exact ⟨deadline, rfl, Moment.unix_of_ofUnix? found, Moment.inUtc_of_ofUnix? found⟩

theorem spanOfSeconds_eq_ok_iff {seconds : Int} {predicate : ClaimPredicate} :
    spanOfSeconds seconds = .ok predicate ↔
      ∃ span, predicate = .beforeRelative span ∧ span.seconds = seconds := by
  rw [spanOfSeconds]
  cases found : Span.ofSeconds? seconds with
  | none =>
    simp only [reduceCtorEq, false_iff, not_exists, not_and]
    intro span _ length
    rw [Span.ofSeconds?_eq_some_iff.mpr length] at found
    cases found
  | some span =>
    have length := Span.ofSeconds?_eq_some_iff.mp found
    constructor
    · intro accepted
      obtain rfl := Except.ok.inj accepted
      exact ⟨span, rfl, length⟩
    · intro spelled
      rcases spelled with ⟨other, rfl, otherLength⟩
      rw [Span.ofSeconds?_eq_some_iff.mpr otherLength] at found
      cases found
      rfl

/-! ### Reading what was written -/

/-- Whether a condition can be what is read by so many levels: it has no more of them, the root
counted, and its deadlines are on clocks in UTC. -/
structure WithinLevels (levels : Nat) (predicate : ClaimPredicate) : Prop where
  depth : predicate.depth < levels
  inUtc : predicate.Every Moment.InUtc

/-- A reader of conditions takes exactly what is written of the condition it yields, which is within
its levels. -/
def Accounts (levels : Nat) (reader : Reader ClaimPredicate) : Prop :=
  ∀ ⦃cursor predicate after⦄, reader.run cursor = .ok predicate after →
    predicate.WithinLevels levels ∧ ∃ front, cursor.rest = front ++ after.rest ∧
      predicate.write = .done front ∧ reader.Yields front predicate

theorem yields_readPair {name : String} {branch : Reader ClaimPredicate}
    {join : ClaimPredicate → ClaimPredicate → ClaimPredicate} {count first second : Bytes}
    {left right : ClaimPredicate} (writtenCount : Codec.uint32.write 2 = .done count)
    (yieldsLeft : branch.Yields first left) (yieldsRight : branch.Yields second right) :
    (readPair name branch join).Yields (count ++ (first ++ second)) (join left right) := by
  apply (faithful_uint32.yields writtenCount).bind
  rw [if_pos rfl]
  exact yieldsLeft.bind (yieldsRight.bind_nil (Reader.yields_pure _))

theorem canonical_readPair {name : String} {branch : Reader ClaimPredicate}
    {join : ClaimPredicate → ClaimPredicate → ClaimPredicate} {levels : Nat}
    (accounts : Accounts levels branch)
    {cursor after : Cursor} {predicate : ClaimPredicate}
    (read : (readPair name branch join).run cursor = .ok predicate after) :
    ∃ left right back, predicate = join left right ∧
      left.WithinLevels levels ∧ right.WithinLevels levels ∧ cursor.rest = back ++ after.rest ∧
      Codec.uint32.write 2 ++ (left.write ++ right.write) = .done back ∧
        (readPair name branch join).Yields back predicate := by
  simp only [readPair, Outcome.run_bind_eq_ok] at read
  rcases read with ⟨n, between, readCount, read⟩
  split_ifs at read with isTwo
  · subst isTwo
    simp only [Outcome.run_bind_eq_ok, Outcome.run_pure_eq_ok] at read
    rcases read with ⟨left, _, readLeft, right, _, readRight, rfl, rfl⟩
    rcases faithful_uint32.canonical readCount with ⟨count, split, writtenCount, -⟩
    rcases accounts readLeft with ⟨leftWithin, first, split', writtenLeft, yieldsLeft⟩
    rcases accounts readRight with ⟨rightWithin, second, split'', writtenRight, yieldsRight⟩
    refine ⟨left, right, count ++ (first ++ second), rfl, leftWithin, rightWithin, ?_, ?_, ?_⟩
    · rw [split, split', split'', List.append_assoc, List.append_assoc]
    · rw [writtenCount, writtenLeft, writtenRight, Output.done_append_done, Output.done_append_done]
    · exact yields_readPair writtenCount yieldsLeft yieldsRight
  · exact absurd read Outcome.run_throw_ne_ok

/-- What is read after the number of a kind was written after it, and has one level more than the
branches. -/
theorem canonical_readContent {branch : Reader ClaimPredicate} {levels : Nat}
    (accounts : Accounts levels branch)
    {kind : Int} {cursor after : Cursor} {predicate : ClaimPredicate}
    (read : (readContent branch kind).run cursor = .ok predicate after) :
    predicate.kind.number = kind ∧ predicate.WithinLevels (levels + 1) ∧
      ∃ back, cursor.rest = back ++ after.rest ∧ predicate.writeContent = .done back ∧
        (readContent branch kind).Yields back predicate := by
  rw [readContent] at read ⊢
  split_ifs at read ⊢ with unconditional and or not absolute relative
  · rcases Outcome.run_pure_eq_ok.mp read with ⟨rfl, rfl⟩
    exact ⟨unconditional.symm, ⟨Nat.succ_pos levels, trivial⟩, [], rfl, rfl, Reader.yields_pure _⟩
  · obtain ⟨left, right, back, rfl, leftWithin, rightWithin, split, written, yields⟩ :=
      canonical_readPair accounts read
    have depth := Nat.succ_lt_succ (max_lt leftWithin.depth rightWithin.depth)
    exact ⟨and.symm, ⟨depth, leftWithin.inUtc, rightWithin.inUtc⟩, back, split, written, yields⟩
  · obtain ⟨left, right, back, rfl, leftWithin, rightWithin, split, written, yields⟩ :=
      canonical_readPair accounts read
    have depth := Nat.succ_lt_succ (max_lt leftWithin.depth rightWithin.depth)
    exact ⟨or.symm, ⟨depth, leftWithin.inUtc, rightWithin.inUtc⟩, back, split, written, yields⟩
  · simp only [Outcome.run_bind_eq_ok] at read
    rcases read with ⟨present, between, readFlag, read⟩
    cases present with
    | false => exact absurd read Outcome.run_throw_ne_ok
    | true =>
      simp only [if_true, Outcome.run_bind_eq_ok, Outcome.run_pure_eq_ok] at read
      rcases read with ⟨inner, _, readInner, rfl, rfl⟩
      rcases faithful_bool.canonical readFlag with ⟨flag, split, writtenFlag, yieldsFlag⟩
      rcases accounts readInner with ⟨within, front, split', written, yields⟩
      refine ⟨not.symm, ⟨Nat.succ_lt_succ within.depth, within.inUtc⟩, flag ++ front,
        by rw [split, split', List.append_assoc], ?_, ?_⟩
      · rw [writeContent, writtenFlag, written, Output.done_append_done]
      · exact yieldsFlag.bind (yields.bind_nil (Reader.yields_pure _))
  · simp only [Outcome.run_bind_eq_ok, Reader.run_ofExcept_eq_ok] at read
    rcases read with ⟨unix, _, readTime, accepted, rfl⟩
    rcases faithful_int64.canonical readTime with ⟨back, split, written, yields⟩
    have yieldsAll : (Codec.int64.read >>= fun n => Reader.ofExcept (deadlineOfUnix n)).Yields
        back predicate :=
      yields.bind_nil (Reader.yields_ofExcept accepted)
    rcases eq_of_deadlineOfUnix accepted with ⟨deadline, rfl, rfl, inUtc⟩
    exact ⟨absolute.symm, ⟨Nat.succ_pos levels, inUtc⟩, back, split, written, yieldsAll⟩
  · simp only [Outcome.run_bind_eq_ok, Reader.run_ofExcept_eq_ok] at read
    rcases read with ⟨seconds, _, readTime, accepted, rfl⟩
    rcases faithful_int64.canonical readTime with ⟨back, split, written, yields⟩
    have yieldsAll : (Codec.int64.read >>= fun n => Reader.ofExcept (spanOfSeconds n)).Yields
        back predicate :=
      yields.bind_nil (Reader.yields_ofExcept accepted)
    rcases spanOfSeconds_eq_ok_iff.mp accepted with ⟨span, rfl, rfl⟩
    exact ⟨relative.symm, ⟨Nat.succ_pos levels, trivial⟩, back, split, written, yieldsAll⟩
  · exact absurd read Outcome.run_throw_ne_ok

theorem accounts_readLevels (levels : Nat) : Accounts levels (readLevels levels) := by
  induction levels with
  | zero =>
    intro cursor predicate after read
    exact absurd read Outcome.run_throw_ne_ok
  | succ levels inductionHypothesis =>
    intro cursor predicate after read
    rw [readLevels_succ, Outcome.run_bind_eq_ok] at read
    rcases read with ⟨kind, between, readKind, read⟩
    rcases faithful_int32.canonical readKind with ⟨front, split, writtenKind, yieldsKind⟩
    rcases canonical_readContent inductionHypothesis read with
      ⟨rfl, within, back, split', written, yields⟩
    refine ⟨within, front ++ back, by rw [split, split', List.append_assoc], ?_, ?_⟩
    · rw [write_eq, writtenKind, written, Output.done_append_done]
    · rw [readLevels_succ]
      exact yieldsKind.bind yields

/-! ### What is written tells the condition -/

/-- Two pairs of branches with encodings that can be taken for one another are the same, if that
holds for the branches of the first. -/
private theorem unambiguous_branches {left right left' right' : ClaimPredicate}
    (leftLaw : ∀ {y : ClaimPredicate} {front back frontRest backRest : Bytes},
      left.write = .done front → y.write = .done back → front ++ frontRest = back ++ backRest →
        left.sameBy Moment.alike y = true ∧ front = back)
    (rightLaw : ∀ {y : ClaimPredicate} {front back frontRest backRest : Bytes},
      right.write = .done front → y.write = .done back → front ++ frontRest = back ++ backRest →
        right.sameBy Moment.alike y = true ∧ front = back)
    {front back frontRest backRest : Bytes}
    (written : Codec.uint32.write 2 ++ (left.write ++ right.write) = .done front)
    (written' : Codec.uint32.write 2 ++ (left'.write ++ right'.write) = .done back)
    (joined : front ++ frontRest = back ++ backRest) :
    (left.sameBy Moment.alike left' && right.sameBy Moment.alike right') = true ∧ front = back := by
  rcases Output.append_eq_done_iff.mp written with ⟨count, both, writtenCount, writtenBoth, rfl⟩
  rcases Output.append_eq_done_iff.mp written' with
    ⟨count', both', writtenCount', writtenBoth', rfl⟩
  rcases Output.append_eq_done_iff.mp writtenBoth with
    ⟨first, second, writtenFirst, writtenSecond, rfl⟩
  obtain ⟨first', second', writtenFirst', writtenSecond', rfl⟩ :=
    Output.append_eq_done_iff.mp writtenBoth'
  rw [writtenCount] at writtenCount'
  cases writtenCount'
  simp only [List.append_assoc, List.append_cancel_left_eq] at joined
  rcases leftLaw writtenFirst writtenFirst' joined with ⟨sameLeft, rfl⟩
  obtain ⟨sameRight, rfl⟩ :=
    rightLaw writtenSecond writtenSecond' (List.append_cancel_left joined)
  exact ⟨by rw [sameLeft, sameRight, Bool.and_true], rfl⟩

/-- Conditions with encodings that can be taken for one another have the same kind, and what follows
their kinds can be taken for one another too. -/
private theorem contents_of_joined {x y : ClaimPredicate} {left right leftRest rightRest : Bytes}
    (writeX : x.write = .done left) (writeY : y.write = .done right)
    (joined : left ++ leftRest = right ++ rightRest) :
    x.kind = y.kind ∧ ∃ tag front back, left = tag ++ front ∧ right = tag ++ back ∧
      x.writeContent = .done front ∧ y.writeContent = .done back ∧
        front ++ leftRest = back ++ rightRest := by
  rw [write_eq] at writeX writeY
  rcases Output.append_eq_done_iff.mp writeX with ⟨tag, front, writtenTag, written, rfl⟩
  rcases Output.append_eq_done_iff.mp writeY with ⟨tag', back, writtenTag', written', rfl⟩
  rw [List.append_assoc, List.append_assoc] at joined
  rcases faithful_int32.unambiguous writtenTag writtenTag' joined with ⟨sameNumber, rfl⟩
  exact ⟨ClaimPredicateKind.number_injective sameNumber, tag, front, back, rfl, rfl,
    written, written', List.append_cancel_left joined⟩

/-- No two conditions that differ in more than the clocks of their deadlines have encodings that can
be taken for one another, at any depth. -/
theorem unambiguous_write {x y : ClaimPredicate} {left right leftRest rightRest : Bytes}
    (writeX : x.write = .done left) (writeY : y.write = .done right)
    (joined : left ++ leftRest = right ++ rightRest) :
    x.sameBy Moment.alike y = true ∧ left = right := by
  -- Only the first condition is taken apart: the joined encodings make the second one of its kind.
  induction x generalizing y left right leftRest rightRest with
  | unconditional =>
    obtain ⟨sameKind, tag, front, back, rfl, rfl, contentX, contentY, -⟩ :=
      contents_of_joined writeX writeY joined
    cases y with
    | unconditional =>
      cases contentX
      cases contentY
      exact ⟨rfl, rfl⟩
    | _ => cases sameKind
  | and first second firstLaw secondLaw =>
    obtain ⟨sameKind, tag, front, back, rfl, rfl, contentX, contentY, joined⟩ :=
      contents_of_joined writeX writeY joined
    cases y with
    | and first' second' =>
      rcases unambiguous_branches firstLaw secondLaw contentX contentY joined with ⟨same, rfl⟩
      exact ⟨same, rfl⟩
    | _ => cases sameKind
  | or first second firstLaw secondLaw =>
    obtain ⟨sameKind, tag, front, back, rfl, rfl, contentX, contentY, joined⟩ :=
      contents_of_joined writeX writeY joined
    cases y with
    | or first' second' =>
      rcases unambiguous_branches firstLaw secondLaw contentX contentY joined with ⟨same, rfl⟩
      exact ⟨same, rfl⟩
    | _ => cases sameKind
  | not inner innerLaw =>
    obtain ⟨sameKind, tag, front, back, rfl, rfl, contentX, contentY, joined⟩ :=
      contents_of_joined writeX writeY joined
    cases y with
    | not inner' =>
      rcases Output.append_eq_done_iff.mp contentX with ⟨flag, content, writtenFlag, written, rfl⟩
      rcases Output.append_eq_done_iff.mp contentY with
        ⟨flag', content', writtenFlag', written', rfl⟩
      rw [writtenFlag] at writtenFlag'
      cases writtenFlag'
      rw [List.append_assoc, List.append_assoc] at joined
      rcases innerLaw written written' (List.append_cancel_left joined) with ⟨same, rfl⟩
      exact ⟨same, rfl⟩
    | _ => cases sameKind
  | beforeAbsolute deadline =>
    obtain ⟨sameKind, tag, front, back, rfl, rfl, contentX, contentY, joined⟩ :=
      contents_of_joined writeX writeY joined
    cases y with
    | beforeAbsolute deadline' =>
      rcases faithful_int64.unambiguous contentX contentY joined with ⟨unix, rfl⟩
      exact ⟨Moment.alike_iff.mpr unix, rfl⟩
    | _ => cases sameKind
  | beforeRelative span =>
    obtain ⟨sameKind, tag, front, back, rfl, rfl, contentX, contentY, joined⟩ :=
      contents_of_joined writeX writeY joined
    cases y with
    | beforeRelative span' =>
      rcases faithful_int64.unambiguous contentX contentY joined with ⟨seconds, rfl⟩
      obtain rfl : span = span' := by
        cases span
        cases span'
        cases seconds
        rfl
      exact ⟨by simp [sameBy], rfl⟩
    | _ => cases sameKind

/-! ### Reading down to the limit -/

private theorem readable_branches {name : String}
    {join : ClaimPredicate → ClaimPredicate → ClaimPredicate}
    {branch : Reader ClaimPredicate} {left right : ClaimPredicate} {bytes : Bytes}
    (leftLaw : ∀ {front : Bytes}, left.write = .done front → ∃ result, branch.Yields front result)
    (rightLaw : ∀ {front : Bytes}, right.write = .done front → ∃ result, branch.Yields front result)
    (written : Codec.uint32.write 2 ++ (left.write ++ right.write) = .done bytes) :
    ∃ result, (readPair name branch join).Yields bytes result := by
  rcases Output.append_eq_done_iff.mp written with ⟨count, both, writtenCount, writtenBoth, rfl⟩
  rcases Output.append_eq_done_iff.mp writtenBoth with
    ⟨first, second, writtenFirst, writtenSecond, rfl⟩
  rcases leftLaw writtenFirst with ⟨_, yieldsLeft⟩
  rcases rightLaw writtenSecond with ⟨_, yieldsRight⟩
  exact ⟨_, yields_readPair writtenCount yieldsLeft yieldsRight⟩

private theorem readable_of_content {predicate : ClaimPredicate} {levels : Nat} {bytes : Bytes}
    (content : ∀ {back : Bytes}, predicate.writeContent = .done back →
      ∃ result, (readContent (readLevels levels) predicate.kind.number).Yields back result)
    (written : predicate.write = .done bytes) :
    ∃ result, (readLevels (levels + 1)).Yields bytes result := by
  rw [write_eq] at written
  rcases Output.append_eq_done_iff.mp written with ⟨tag, back, writtenTag, writtenContent, rfl⟩
  rcases content writtenContent with ⟨result, yields⟩
  refine ⟨result, ?_⟩
  rw [readLevels_succ]
  exact (faithful_int32.yields writtenTag).bind yields

/-- What is written of a condition is read back by as many levels as it has, the root counted. -/
theorem exists_yields_readLevels {predicate : ClaimPredicate} {levels : Nat} {bytes : Bytes}
    (shallow : predicate.depth ≤ levels) (inYears : predicate.Every Moment.InUtcYears)
    (written : predicate.write = .done bytes) :
    ∃ result, (readLevels (levels + 1)).Yields bytes result := by
  -- Each level of the condition uses up one level of the reader; the branches have one less of
  -- both.
  induction predicate generalizing levels bytes with
  | unconditional =>
    refine readable_of_content ?_ written
    intro back content
    cases content
    exact ⟨.unconditional, Reader.yields_pure _⟩
  | and left right leftLaw rightLaw =>
    rcases Nat.exists_eq_add_one_of_ne_zero (Nat.ne_zero_of_lt shallow) with ⟨levels, rfl⟩
    have below := max_le_iff.mp (Nat.le_of_succ_le_succ shallow)
    refine readable_of_content ?_ written
    exact readable_branches (leftLaw below.1 inYears.1) (rightLaw below.2 inYears.2)
  | or left right leftLaw rightLaw =>
    rcases Nat.exists_eq_add_one_of_ne_zero (Nat.ne_zero_of_lt shallow) with ⟨levels, rfl⟩
    have below := max_le_iff.mp (Nat.le_of_succ_le_succ shallow)
    refine readable_of_content ?_ written
    exact readable_branches (leftLaw below.1 inYears.1) (rightLaw below.2 inYears.2)
  | not inner innerLaw =>
    rcases Nat.exists_eq_add_one_of_ne_zero (Nat.ne_zero_of_lt shallow) with ⟨levels, rfl⟩
    refine readable_of_content ?_ written
    intro back content
    rcases Output.append_eq_done_iff.mp content with ⟨flag, front, writtenFlag, writtenInner, rfl⟩
    rcases innerLaw (Nat.le_of_succ_le_succ shallow) inYears writtenInner with ⟨result, yields⟩
    exact ⟨.not result, (faithful_bool.yields writtenFlag).bind
      (yields.bind_nil (Reader.yields_pure _))⟩
  | beforeAbsolute deadline =>
    refine readable_of_content ?_ written
    intro back content
    have inUtc : Moment.ofUnix? deadline.unix = some ⟨deadline.unix, false, Zone.utc, inYears⟩ :=
      dif_pos inYears
    have accepted : deadlineOfUnix deadline.unix =
        .ok (.beforeAbsolute ⟨deadline.unix, false, Zone.utc, inYears⟩) := by
      rw [deadlineOfUnix, inUtc]
    exact ⟨_, (faithful_int64.yields content).bind_nil (Reader.yields_ofExcept accepted)⟩
  | beforeRelative span =>
    refine readable_of_content ?_ written
    intro back content
    have accepted : spanOfSeconds span.seconds = .ok (.beforeRelative span) :=
      spanOfSeconds_eq_ok_iff.mpr ⟨span, rfl, rfl⟩
    exact ⟨_, (faithful_int64.yields content).bind_nil (Reader.yields_ofExcept accepted)⟩

/-- Whether a condition is read back: it is no deeper than the limit, and UTC can show its
deadlines. -/
def Decodable (predicate : ClaimPredicate) : Prop :=
  predicate.depth ≤ maxDepth ∧ predicate.Every Moment.InUtcYears

theorem sameBy_self {times : TimeRelation} (reflexive : ∀ moment?, times moment? moment? = true)
    (predicate : ClaimPredicate) : predicate.sameBy times predicate = true := by
  induction predicate with
  | unconditional => rfl
  | and left right leftLaw rightLaw => simp [sameBy, leftLaw, rightLaw]
  | or left right leftLaw rightLaw => simp [sameBy, leftLaw, rightLaw]
  | not inner innerLaw => simp [sameBy, innerLaw]
  | beforeAbsolute deadline => exact reflexive (some deadline)
  | beforeRelative span => simp [sameBy]

/-- Conditions are told by what is written of them, and are read back down to the limit. -/
theorem lawful_codec :
    ClaimPredicate.codec.Lawful (fun a b => a.sameBy Moment.alike b = true) Decodable where
  canonical := by
    intro cursor predicate after read
    exact (accounts_readLevels (maxDepth + 1) read).2
  unambiguous := by
    intro x y left right leftRest rightRest writeX writeY joined
    exact unambiguous_write writeX writeY joined
  readable := by
    intro predicate bytes good written
    exact exists_yields_readLevels good.1 good.2 written

/-- Conditions that are read have deadlines on clocks in UTC, and would be read back. -/
theorem reads_codec :
    ClaimPredicate.codec.Reads fun predicate =>
      predicate.Decodable ∧ predicate.Every Moment.InUtc := by
  intro cursor predicate after read
  obtain ⟨depth, inUtc⟩ := (accounts_readLevels (maxDepth + 1) read).1
  exact ⟨⟨Nat.le_of_lt_succ depth, inUtc.mono fun _ => Moment.InUtc.inUtcYears⟩, inUtc⟩

/-! ### Conditions of one shape -/

/-- Whether two conditions are of one shape, with the same lengths of time and with related
deadlines. -/
inductive Related (times : TimeRelation) : ClaimPredicate → ClaimPredicate → Prop
  | unconditional : Related times .unconditional .unconditional
  | and {left right left' right' : ClaimPredicate} (relatedLeft : Related times left left')
      (relatedRight : Related times right right') :
      Related times (.and left right) (.and left' right')
  | or {left right left' right' : ClaimPredicate} (relatedLeft : Related times left left')
      (relatedRight : Related times right right') :
      Related times (.or left right) (.or left' right')
  | not {inner inner' : ClaimPredicate} (related : Related times inner inner') :
      Related times (.not inner) (.not inner')
  | beforeAbsolute {deadline deadline' : Moment}
      (related : times (some deadline) (some deadline') = true) :
      Related times (.beforeAbsolute deadline) (.beforeAbsolute deadline')
  | beforeRelative (span : Span) : Related times (.beforeRelative span) (.beforeRelative span)

theorem related_of_sameBy {times : TimeRelation} {x y : ClaimPredicate}
    (same : x.sameBy times y = true) : Related times x y := by
  induction x generalizing y with
  | unconditional =>
    cases y with
    | unconditional => exact .unconditional
    | _ => cases same
  | and left right leftLaw rightLaw =>
    cases y with
    | and left' right' =>
      obtain ⟨sameLeft, sameRight⟩ := Bool.and_eq_true_iff.mp same
      exact .and (leftLaw sameLeft) (rightLaw sameRight)
    | _ => cases same
  | or left right leftLaw rightLaw =>
    cases y with
    | or left' right' =>
      obtain ⟨sameLeft, sameRight⟩ := Bool.and_eq_true_iff.mp same
      exact .or (leftLaw sameLeft) (rightLaw sameRight)
    | _ => cases same
  | not inner innerLaw =>
    cases y with
    | not inner' => exact .not (innerLaw same)
    | _ => cases same
  | beforeAbsolute deadline =>
    cases y with
    | beforeAbsolute deadline' => exact .beforeAbsolute same
    | _ => cases same
  | beforeRelative span =>
    cases y with
    | beforeRelative span' =>
      obtain rfl : span = span' := eq_of_beq same
      exact .beforeRelative span
    | _ => cases same

theorem Related.depth_eq {times : TimeRelation} {x y : ClaimPredicate}
    (related : Related times x y) : x.depth = y.depth := by
  induction related with
  | and _ _ leftLaw rightLaw | or _ _ leftLaw rightLaw => rw [depth, depth, leftLaw, rightLaw]
  | not _ innerLaw => rw [depth, depth, innerLaw]
  | _ => rfl

theorem Related.every_inUtcYears_iff {x y : ClaimPredicate} (related : Related Moment.alike x y) :
    x.Every Moment.InUtcYears ↔ y.Every Moment.InUtcYears := by
  induction related with
  | and _ _ leftLaw rightLaw | or _ _ leftLaw rightLaw => exact and_congr leftLaw rightLaw
  | not _ innerLaw => exact innerLaw
  | beforeAbsolute unix => exact iff_of_eq (congrArg Moment.Readable (Moment.alike_iff.mp unix))
  | _ => rfl

/-- Only the depth and the Unix times decide on what is read back. -/
theorem decodable_congr {x y : ClaimPredicate} (alike : x.sameBy Moment.alike y = true) :
    x.Decodable ↔ y.Decodable := by
  have related := related_of_sameBy alike
  rw [Decodable, Decodable, related.depth_eq, related.every_inUtcYears_iff]

/-- A condition is the same as one with the same Unix times and definite deadlines exactly if these
times stand for its own deadlines. -/
theorem same_iff_exact {x y : ClaimPredicate} (alike : x.sameBy Moment.alike y = true)
    (definite : y.Every Moment.Definite) :
    x.sameBy Moment.sameIfAny y = true ↔ x.Every Moment.Exact := by
  induction related_of_sameBy alike with
  | unconditional => exact iff_of_true rfl trivial
  | and left right leftLaw rightLaw | or left right leftLaw rightLaw =>
    rw [sameBy, Bool.and_eq_true] at alike
    rw [sameBy, Bool.and_eq_true, leftLaw alike.1 definite.1, rightLaw alike.2 definite.2]
    rfl
  | not _ innerLaw => exact innerLaw alike definite
  | beforeAbsolute unix => exact Moment.same_iff_exact (Moment.alike_iff.mp unix) definite
  | beforeRelative span => exact iff_of_true (by simp [sameBy]) trivial

end ClaimPredicate

end LedgerWire
