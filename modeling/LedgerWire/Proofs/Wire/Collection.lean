import LedgerWire.Proofs.Wire.Primitive

/-!
Contract: the law of optional values and of lists after their count.

A count is refused if the bytes to come cannot hold that many elements of four bytes. The guard
refuses no encoding as long as the elements are that wide, which is what `Codec.Wide` is for.

Owns:
- the law for `optional` and `array`;
- the reading and writing of as many elements as a count says.

Does not own: the elements.
-/

namespace LedgerWire.Wire.Codec

variable {α : Type} {codec : Codec α} {Same : α → α → Prop} {Good : α → Prop}

/-! ### Optional values -/

theorem write_optional_none : codec.optional.write none = bool.write false := rfl

theorem Lawful.optional (lawful : codec.Lawful Same Good) :
    codec.optional.Lawful (Option.Rel Same) (fun value => ∀ x ∈ value, Good x) where
  canonical := by
    intro cursor value after read
    simp only [Codec.optional, Outcome.run_bind_eq_ok] at read
    rcases read with ⟨present, between, readFlag, read⟩
    rcases faithful_bool.canonical readFlag with ⟨front, split, writtenFlag, yieldsFlag⟩
    cases present with
    | false =>
      rcases Outcome.run_pure_eq_ok.mp read with ⟨rfl, rfl⟩
      exact ⟨front, split, writtenFlag, yieldsFlag.bind_nil (Reader.yields_pure none)⟩
    | true =>
      simp only [if_true, Outcome.run_bind_eq_ok, Outcome.run_pure_eq_ok] at read
      rcases read with ⟨content, _, read, rfl, rfl⟩
      rcases lawful.canonical read with ⟨back, split', written, yields⟩
      refine ⟨front ++ back, by rw [split, split', List.append_assoc], ?_, ?_⟩
      · simp only [Codec.optional, writtenFlag, written, Output.done_append_done]
      · exact yieldsFlag.bind (yields.bind_nil (Reader.yields_pure (some content)))
  unambiguous := by
    -- The flag tells whether a value follows, so both sides have one or neither has.
    intro x y left right leftRest rightRest writeX writeY joined
    cases x with
    | none =>
      rw [write_optional_none] at writeX
      cases y with
      | none =>
        rw [write_optional_none, writeX] at writeY
        cases writeY
        exact ⟨.none, rfl⟩
      | some y =>
        rcases Output.append_eq_done_iff.mp writeY with ⟨front, back, flagY, -, rfl⟩
        rw [List.append_assoc] at joined
        cases (faithful_bool.unambiguous writeX flagY joined).1
    | some x =>
      rcases Output.append_eq_done_iff.mp writeX with ⟨front, back, flagX, contentX, rfl⟩
      rw [List.append_assoc] at joined
      cases y with
      | none =>
        rw [write_optional_none] at writeY
        cases (faithful_bool.unambiguous flagX writeY joined).1
      | some y =>
        rcases Output.append_eq_done_iff.mp writeY with ⟨front', back', flagY, contentY, rfl⟩
        rw [List.append_assoc] at joined
        rcases faithful_bool.unambiguous flagX flagY joined with ⟨-, rfl⟩
        obtain ⟨same, rfl⟩ :=
          lawful.unambiguous contentX contentY (List.append_cancel_left joined)
        exact ⟨.some same, rfl⟩
  readable := by
    intro value bytes good written
    cases value with
    | none =>
      rw [write_optional_none] at written
      exact ⟨none, (faithful_bool.yields written).bind_nil (Reader.yields_pure none)⟩
    | some x =>
      rcases Output.append_eq_done_iff.mp written with ⟨front, back, flag, content, rfl⟩
      rcases lawful.readable (good x rfl) content with ⟨result, yields⟩
      exact ⟨some result, (faithful_bool.yields flag).bind
        (yields.bind_nil (Reader.yields_pure (some result)))⟩

theorem Faithful.optional (faithful : codec.Faithful) : codec.optional.Faithful := by
  refine (Lawful.optional faithful).mono ?_ fun _ _ _ _ => trivial
  intro x y same
  cases same with
  | some equal => rw [equal]
  | none => rfl

theorem wide_optional (codec : Codec α) : codec.optional.Wide := by
  intro value bytes written
  cases value with
  | none =>
    rw [write_optional_none] at written
    exact wide_bool written
  | some x =>
    rcases Output.append_eq_done_iff.mp written with ⟨front, back, flag, -, rfl⟩
    have enough := wide_bool flag
    rw [List.length_append]
    omega

/-! ### As many elements as a count says -/

@[simp] theorem writeAll_nil : codec.writeAll [] = .done [] := rfl

@[simp] theorem writeAll_cons (first : α) (rest : List α) :
    codec.writeAll (first :: rest) = codec.write first ++ codec.writeAll rest := rfl

theorem Wide.length_writeAll (wide : codec.Wide) {items : List α} {bytes : Bytes}
    (written : codec.writeAll items = .done bytes) : items.length * 4 ≤ bytes.length := by
  induction items generalizing bytes with
  | nil => simp
  | cons first rest inductionHypothesis =>
    rcases Output.append_eq_done_iff.mp written with ⟨front, back, writtenFirst, writtenRest, rfl⟩
    have enough := wide writtenFirst
    have others := inductionHypothesis writtenRest
    simp only [List.length_cons, List.length_append]
    omega

theorem Lawful.canonical_times (lawful : codec.Lawful Same Good) {n : Nat} {items : List α}
    {cursor after : Cursor} (read : (Reader.times codec.read n).run cursor = .ok items after) :
    items.length = n ∧ ∃ front, cursor.rest = front ++ after.rest ∧
      codec.writeAll items = .done front ∧ (Reader.times codec.read n).Yields front items := by
  induction n generalizing items cursor with
  | zero =>
    rcases Outcome.run_pure_eq_ok.mp read with ⟨rfl, rfl⟩
    exact ⟨rfl, [], rfl, rfl, Reader.yields_pure []⟩
  | succ n inductionHypothesis =>
    simp only [Reader.times, Outcome.run_bind_eq_ok, Outcome.run_pure_eq_ok] at read
    rcases read with ⟨first, between, readFirst, rest, _, readRest, rfl, rfl⟩
    rcases lawful.canonical readFirst with ⟨front, split, written, yields⟩
    rcases inductionHypothesis readRest with ⟨rfl, back, split', writtenRest, yieldsRest⟩
    refine ⟨rfl, front ++ back, by rw [split, split', List.append_assoc], ?_, ?_⟩
    · rw [writeAll_cons, written, writtenRest, Output.done_append_done]
    · exact yields.bind (yieldsRest.bind_nil (Reader.yields_pure _))

/-- As many elements on both sides with encodings that can be taken for one another are the same one
by one. -/
theorem Lawful.unambiguous_writeAll (lawful : codec.Lawful Same Good) {xs ys : List α}
    {left right leftRest rightRest : Bytes} (length : xs.length = ys.length)
    (writeX : codec.writeAll xs = .done left) (writeY : codec.writeAll ys = .done right)
    (joined : left ++ leftRest = right ++ rightRest) : List.Forall₂ Same xs ys ∧ left = right := by
  induction xs generalizing ys left right with
  | nil =>
    obtain rfl := List.length_eq_zero_iff.mp length.symm
    cases writeX
    cases writeY
    exact ⟨.nil, rfl⟩
  | cons x xs inductionHypothesis =>
    cases ys with
    | nil => cases length
    | cons y ys =>
      rcases Output.append_eq_done_iff.mp writeX with ⟨frontX, backX, firstX, restX, rfl⟩
      rcases Output.append_eq_done_iff.mp writeY with ⟨frontY, backY, firstY, restY, rfl⟩
      rw [List.append_assoc, List.append_assoc] at joined
      rcases lawful.unambiguous firstX firstY joined with ⟨same, rfl⟩
      obtain ⟨others, rfl⟩ := inductionHypothesis (Nat.succ.inj length) restX restY
        (List.append_cancel_left joined)
      exact ⟨.cons same others, rfl⟩

theorem Lawful.readable_times (lawful : codec.Lawful Same Good) {items : List α} {bytes : Bytes}
    (good : ∀ x ∈ items, Good x) (written : codec.writeAll items = .done bytes) :
    ∃ results, (Reader.times codec.read items.length).Yields bytes results := by
  induction items generalizing bytes with
  | nil =>
    cases written
    exact ⟨[], Reader.yields_pure []⟩
  | cons first rest inductionHypothesis =>
    rcases Output.append_eq_done_iff.mp written with ⟨front, back, writtenFirst, writtenRest, rfl⟩
    rcases lawful.readable (good first (by simp)) writtenFirst with ⟨result, yields⟩
    obtain ⟨results, yieldsRest⟩ :=
      inductionHypothesis (fun x member => good x (by simp [member])) writtenRest
    exact ⟨result :: results, yields.bind (yieldsRest.bind_nil (Reader.yields_pure _))⟩

/-! ### Lists after their count -/

theorem write_array_eq_done_iff {limit? : Option Int} {items : List α} {bytes : Bytes} :
    (codec.array limit?).write items = .done bytes ↔
      exceeded? limit? items.length = none ∧ ∃ front back,
        uint32.write items.length = .done front ∧ codec.writeAll items = .done back ∧
          bytes = front ++ back := by
  rw [← Output.append_eq_done_iff]
  simp only [Codec.array]
  split
  · simp [Output.failed, Output.done, *]
  · simp [*]

/-- What follows a count that is within its limit: the guard, and then the elements. -/
def readCounted (codec : Codec α) (n : Int) : Reader (List α) := do
  let cursor ← get
  if (cursor.remaining : Int) < n * 4 then
    Reader.malformed s!"array count {n} exceeds remaining data"
  else
    Reader.times codec.read n.toNat

theorem read_array (limit? : Option Int) :
    (codec.array limit?).read = uint32.read >>= fun n =>
      match exceeded? limit? n with
      | some limit => Reader.malformed s!"array longer than {limit} items: {n}"
      | none => codec.readCounted n := rfl

theorem run_readCounted_eq_ok {n : Int} {items : List α} {cursor after : Cursor} :
    (codec.readCounted n).run cursor = .ok items after ↔
      n * 4 ≤ cursor.remaining ∧
      (Reader.times codec.read n.toNat).run cursor = .ok items after := by
  change (if (cursor.remaining : Int) < n * 4 then
    Reader.malformed s!"array count {n} exceeds remaining data"
    else Reader.times codec.read n.toNat : Reader (List α)).run cursor = _ ↔ _
  split_ifs with short
  · simp only [Reader.run_malformed_ne_ok, false_iff, not_and]
    omega
  · simp only [iff_and_self]
    omega

theorem yields_readCounted {n : Nat} {bytes : Bytes} {items : List α}
    (room : n * 4 ≤ bytes.length) (yields : (Reader.times codec.read n).Yields bytes items) :
    (codec.readCounted n).Yields bytes items := by
  intro offset rest
  rw [run_readCounted_eq_ok]
  refine ⟨?_, by simpa using yields offset rest⟩
  simp only [Cursor.remaining, List.length_append]
  omega

/-- A list of wide elements is lawful if the elements are. -/
theorem Lawful.array (lawful : codec.Lawful Same Good) (wide : codec.Wide) (limit? : Option Int) :
    (codec.array limit?).Lawful (List.Forall₂ Same) (fun items => ∀ x ∈ items, Good x) where
  canonical := by
    intro cursor items after read
    simp only [read_array, Outcome.run_bind_eq_ok] at read
    rcases read with ⟨n, between, readCount, read⟩
    rcases faithful_uint32.canonical readCount with ⟨front, split, writtenCount, yieldsCount⟩
    cases within : exceeded? limit? n with
    | some limit => simp [within] at read
    | none =>
      simp only [within, run_readCounted_eq_ok] at read
      rcases lawful.canonical_times read.2 with ⟨counted, back, split', written, yields⟩
      have isCount : (items.length : Int) = n := by
        have nonneg := nonneg_of_read_uint32 readCount
        omega
      subst isCount
      refine ⟨front ++ back, by rw [split, split', List.append_assoc], ?_, ?_⟩
      · exact write_array_eq_done_iff.mpr ⟨within, front, back, writtenCount, written, rfl⟩
      · rw [read_array]
        apply yieldsCount.bind
        simp only [within]
        exact yields_readCounted (wide.length_writeAll written) yields
  unambiguous := by
    intro xs ys left right leftRest rightRest writeX writeY joined
    rcases write_array_eq_done_iff.mp writeX with ⟨-, front, back, countX, itemsX, rfl⟩
    rcases write_array_eq_done_iff.mp writeY with ⟨-, front', back', countY, itemsY, rfl⟩
    rw [List.append_assoc, List.append_assoc] at joined
    rcases faithful_uint32.unambiguous countX countY joined with ⟨length, rfl⟩
    obtain ⟨same, rfl⟩ := lawful.unambiguous_writeAll (by exact_mod_cast length) itemsX itemsY
      (List.append_cancel_left joined)
    exact ⟨same, rfl⟩
  readable := by
    intro items bytes good written
    rcases write_array_eq_done_iff.mp written with ⟨within, front, back, count, writtenItems, rfl⟩
    rcases lawful.readable_times good writtenItems with ⟨results, yields⟩
    refine ⟨results, ?_⟩
    rw [read_array]
    apply (faithful_uint32.yields count).bind
    simp only [within]
    exact yields_readCounted (wide.length_writeAll writtenItems) yields

theorem Faithful.array (faithful : codec.Faithful) (wide : codec.Wide) (limit? : Option Int) :
    (codec.array limit?).Faithful := by
  refine (Lawful.array faithful wide limit?).mono ?_ fun _ _ _ _ => trivial
  intro xs ys same
  exact List.forall₂_eq_eq_eq ▸ same

end LedgerWire.Wire.Codec
