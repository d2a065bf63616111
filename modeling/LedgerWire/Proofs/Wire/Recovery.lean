import LedgerWire.Proofs.Wire.Collection
import LedgerWire.Proofs.Wire.Union

/-!
Contract: layouts that read only some of the values they write. A layout may write a value of which
the encoding does not show everything; the values that it does show are those that a reading can end
in, and they are the ones that come back.

Owns:
- `Codec.Canonical`: what is read was written in just that way, and has a property;
- `Codec.Restores`: what is written of a value with a property is read back;
- `Codec.Recovers`, both for one property, and its passage through the ways to put layouts together;
- `Codec.Recovers.decode_eq_ok_iff`, which values a byte string is decoded to, and
  `Codec.Recovers.decode_iff_of_encode`, which values come back.

Does not own: layouts that read all they write, for which `Codec.Faithful` says more.
-/

namespace LedgerWire.Wire.Codec

variable {α β γ : Type}

/-! ### The law -/

/-- What is read has the property, and the bytes it is read from are those that are written of
it. -/
def Canonical (codec : Codec α) (Proper : α → Prop) : Prop :=
  ∀ ⦃cursor value after⦄, codec.read.run cursor = .ok value after →
    Proper value ∧ ∃ front, cursor.rest = front ++ after.rest ∧ codec.write value = .done front

/-- What is written of a value with the property is read back to it, wherever it stands. -/
def Restores (codec : Codec α) (Proper : α → Prop) : Prop :=
  ∀ ⦃value bytes⦄, Proper value → codec.write value = .done bytes → codec.read.Yields bytes value

/-- The values with the property are those that are read, and they are read from what is written of
them. -/
structure Recovers (codec : Codec α) (Proper : α → Prop) : Prop where
  canonical : codec.Canonical Proper
  restores : codec.Restores Proper

theorem Faithful.recovers {codec : Codec α} (faithful : codec.Faithful) :
    codec.Recovers fun _ => True where
  canonical := by
    intro cursor value after read
    rcases faithful.canonical read with ⟨front, split, written, -⟩
    exact ⟨trivial, front, split, written⟩
  restores := by
    intro value bytes _ written
    exact faithful.yields written

theorem Recovers.congr {codec : Codec α} {Proper Proper' : α → Prop} (law : codec.Recovers Proper)
    (same : ∀ value, Proper value ↔ Proper' value) : codec.Recovers Proper' := by
  obtain rfl : Proper = Proper' := funext fun value => propext (same value)
  exact law

/-! ### Pairs and conversions -/

theorem Recovers.pair {first : Codec α} {second : Codec β} {ProperFirst : α → Prop}
    {ProperSecond : β → Prop} (firstLaw : first.Recovers ProperFirst)
    (secondLaw : second.Recovers ProperSecond) :
    (first.pair second).Recovers fun value => ProperFirst value.1 ∧ ProperSecond value.2 where
  canonical := by
    intro cursor value after read
    simp only [Codec.pair, Outcome.run_bind_eq_ok, Outcome.run_pure_eq_ok] at read
    rcases read with ⟨left, between, readLeft, right, _, readRight, rfl, rfl⟩
    rcases firstLaw.canonical readLeft with ⟨properLeft, front, split, written⟩
    rcases secondLaw.canonical readRight with ⟨properRight, back, split', written'⟩
    refine ⟨⟨properLeft, properRight⟩, front ++ back, ?_, ?_⟩
    · rw [split, split', List.append_assoc]
    · simp only [Codec.pair, written, written', Output.done_append_done]
  restores := by
    intro value bytes proper written
    rcases Output.append_eq_done_iff.mp written with ⟨front, back, writtenFirst, writtenSecond, rfl⟩
    apply (firstLaw.restores proper.1 writtenFirst).bind
    exact (secondLaw.restores proper.2 writtenSecond).bind_nil (Reader.yields_pure _)

/-- A layout that reads what it builds of the values of another one, if every value with the
property is built of one that comes back. -/
theorem Recovers.build {content : Codec α} {codec : Codec β} {ProperContent : α → Prop}
    {Proper : β → Prop} (law : content.Recovers ProperContent) (build : α → β)
    (read_eq : codec.read = do return build (← content.read))
    (proper_build : ∀ x, ProperContent x →
      Proper (build x) ∧ codec.write (build x) = content.write x)
    (exists_build : ∀ y, Proper y → ∃ x, ProperContent x ∧ build x = y) :
    codec.Recovers Proper where
  canonical := by
    intro cursor value after read
    simp only [read_eq, Outcome.run_bind_eq_ok, Outcome.run_pure_eq_ok] at read
    rcases read with ⟨x, _, read, rfl, rfl⟩
    rcases law.canonical read with ⟨properContent, front, split, written⟩
    rcases proper_build x properContent with ⟨proper, write_build⟩
    exact ⟨proper, front, split, write_build.trans written⟩
  restores := by
    intro value bytes proper written
    rcases exists_build value proper with ⟨x, properContent, rfl⟩
    rw [(proper_build x properContent).2] at written
    rw [read_eq]
    exact (law.restores properContent written).bind_nil (Reader.yields_pure _)

theorem Recovers.convert {codec : Codec α} {Proper : α → Prop} (law : codec.Recovers Proper)
    {build : α → β} {view : β → α} (view_build : ∀ x, view (build x) = x)
    (build_view : ∀ y, build (view y) = y) :
    (codec.convert build view).Recovers fun value => Proper (view value) := by
  apply law.build build rfl
  · intro x proper
    simp only [Codec.convert, view_build]
    exact ⟨proper, trivial⟩
  · intro y proper
    exact ⟨view y, proper, build_view y⟩

/-! ### Lists after their count -/

section

variable {codec : Codec α} {Proper : α → Prop}

theorem Canonical.times (canonical : codec.Canonical Proper) {n : Nat} {items : List α}
    {cursor after : Cursor} (read : (Reader.times codec.read n).run cursor = .ok items after) :
    items.length = n ∧ (∀ item ∈ items, Proper item) ∧
      ∃ front, cursor.rest = front ++ after.rest ∧ codec.writeAll items = .done front := by
  induction n generalizing items cursor with
  | zero =>
    rcases Outcome.run_pure_eq_ok.mp read with ⟨rfl, rfl⟩
    exact ⟨rfl, nofun, [], rfl, rfl⟩
  | succ n inductionHypothesis =>
    simp only [Reader.times, Outcome.run_bind_eq_ok, Outcome.run_pure_eq_ok] at read
    rcases read with ⟨first, between, readFirst, rest, _, readRest, rfl, rfl⟩
    rcases canonical readFirst with ⟨proper, front, split, written⟩
    rcases inductionHypothesis readRest with ⟨rfl, properRest, back, split', writtenRest⟩
    refine ⟨rfl, List.forall_mem_cons.mpr ⟨proper, properRest⟩, front ++ back, ?_, ?_⟩
    · rw [split, split', List.append_assoc]
    · rw [writeAll_cons, written, writtenRest, Output.done_append_done]

theorem Canonical.array (canonical : codec.Canonical Proper) (limit? : Option Int) :
    (codec.array limit?).Canonical fun items => ∀ item ∈ items, Proper item := by
  intro cursor items after read
  simp only [read_array, Outcome.run_bind_eq_ok] at read
  rcases read with ⟨n, between, readCount, read⟩
  rcases faithful_uint32.canonical readCount with ⟨front, split, writtenCount, -⟩
  have nonneg := nonneg_of_read_uint32 readCount
  cases within : exceeded? limit? n with
  | some limit => simp [within] at read
  | none =>
    simp only [within, run_readCounted_eq_ok] at read
    rcases canonical.times read.2 with ⟨counted, proper, back, split', written⟩
    obtain rfl : n = items.length := by omega
    refine ⟨proper, front ++ back, ?_, ?_⟩
    · rw [split, split', List.append_assoc]
    · exact write_array_eq_done_iff.mpr ⟨within, front, back, writtenCount, written, rfl⟩

/-- As many elements as are written are read back; where each has four bytes, so have all together
four for each. -/
theorem Restores.times (restores : codec.Restores Proper)
    (wide : ∀ ⦃value bytes⦄, Proper value → codec.write value = .done bytes → 4 ≤ bytes.length)
    {items : List α} {bytes : Bytes} (proper : ∀ item ∈ items, Proper item)
    (written : codec.writeAll items = .done bytes) :
    items.length * 4 ≤ bytes.length ∧
      (Reader.times codec.read items.length).Yields bytes items := by
  induction items generalizing bytes with
  | nil =>
    cases written
    exact ⟨le_rfl, Reader.yields_pure []⟩
  | cons first rest inductionHypothesis =>
    rcases Output.append_eq_done_iff.mp written with ⟨front, back, writtenFirst, writtenRest, rfl⟩
    rcases List.forall_mem_cons.mp proper with ⟨properFirst, properRest⟩
    rcases inductionHypothesis properRest writtenRest with ⟨room, yields⟩
    have enough := wide properFirst writtenFirst
    constructor
    · rw [List.length_cons, List.length_append]
      omega
    · apply (restores properFirst writtenFirst).bind
      exact yields.bind_nil (Reader.yields_pure _)

theorem Restores.array (restores : codec.Restores Proper)
    (wide : ∀ ⦃value bytes⦄, Proper value → codec.write value = .done bytes → 4 ≤ bytes.length)
    (limit? : Option Int) :
    (codec.array limit?).Restores fun items => ∀ item ∈ items, Proper item := by
  intro items bytes proper written
  rcases write_array_eq_done_iff.mp written with ⟨within, front, back, count, writtenItems, rfl⟩
  rcases restores.times wide proper writtenItems with ⟨room, yields⟩
  rw [read_array]
  apply (faithful_uint32.yields count).bind
  simp only [within]
  exact yields_readCounted room yields

theorem Recovers.array (law : codec.Recovers Proper) (wide : codec.Wide) (limit? : Option Int) :
    (codec.array limit?).Recovers fun items => ∀ item ∈ items, Proper item where
  canonical := law.canonical.array limit?
  restores := law.restores.array (fun _ _ _ written => wide written) limit?

end

/-! ### Kinds -/

/-- One kind: the values with the property are those that its contents with their property make. -/
theorem Recovers.arm {content : Codec α} {ProperContent : α → Prop} {build : α → β}
    {view? : β → Option α} {Proper : β → Prop} (law : content.Recovers ProperContent)
    (proper_build : ∀ x, ProperContent x → Proper (build x) ∧ view? (build x) = some x)
    (exists_build : ∀ y, Proper y → ∃ x, ProperContent x ∧ build x = y) :
    (content.arm build view?).Recovers Proper := by
  apply law.build build rfl ?_ exists_build
  intro x properContent
  rcases proper_build x properContent with ⟨proper, viewed⟩
  simp only [Codec.arm, viewed]
  exact ⟨proper, trivial⟩

/-- Values of several kinds: each kind has to recover its own values, whatever it does with
others. -/
theorem Recovers.union {tag : Codec γ} {tagOf : β → γ} {arms : γ → Option (Codec β)}
    {unknown : γ → Failure} {Proper : β → Prop} (tagLaw : tag.Faithful)
    (armLaw : ∀ ⦃kind arm⦄, arms kind = some arm →
      arm.Recovers fun value => tagOf value = kind ∧ Proper value) :
    (union tag tagOf arms unknown).Recovers Proper where
  canonical := by
    intro cursor value after read
    simp only [Codec.union, Outcome.run_bind_eq_ok] at read
    rcases read with ⟨kind, between, readTag, read⟩
    cases found : arms kind with
    | none => simp [found] at read
    | some arm =>
      simp only [found] at read
      rcases tagLaw.canonical readTag with ⟨front, split, writtenTag, -⟩
      rcases (armLaw found).canonical read with ⟨⟨rfl, proper⟩, back, split', written⟩
      refine ⟨proper, front ++ back, ?_, ?_⟩
      · rw [split, split', List.append_assoc]
      · exact write_union_eq_done_iff.mpr ⟨arm, front, back, found, writtenTag, written, rfl⟩
  restores := by
    intro value bytes proper written
    obtain ⟨arm, front, back, found, writtenTag, writtenArm, rfl⟩ :=
      write_union_eq_done_iff.mp written
    apply yields_union found (tagLaw.yields writtenTag)
    exact (armLaw found).restores ⟨rfl, proper⟩ writtenArm

/-! ### Whole inputs -/

/-- Whether a byte string is decoded to a value. -/
def Accepts (codec : Codec α) (input : Bytes) : Prop := ∃ value, codec.decode input = .ok value

section

variable {codec : Codec α} {Proper : α → Prop}

theorem Canonical.encode_of_decode (canonical : codec.Canonical Proper) {input : Bytes} {value : α}
    (decoded : codec.decode input = .ok value) :
    Proper value ∧ codec.encode value = .ok input := by
  rcases Reader.readAll_eq_ok.mp decoded with ⟨after, read, rest⟩
  rcases canonical read with ⟨proper, front, split, written⟩
  rw [rest, List.append_nil] at split
  obtain rfl : input = front := split
  exact ⟨proper, encode_eq_ok_iff.mpr written⟩

/-- A byte string is decoded to a value exactly if it is the encoding of the value and the value is
one of those that the encoding shows. -/
theorem Recovers.decode_eq_ok_iff (law : codec.Recovers Proper) {input : Bytes} {value : α} :
    codec.decode input = .ok value ↔ Proper value ∧ codec.encode value = .ok input := by
  constructor
  · intro decoded
    exact law.canonical.encode_of_decode decoded
  · intro shown
    have yields := law.restores shown.1 (encode_eq_ok_iff.mp shown.2)
    apply Reader.readAll_eq_ok.mpr
    exact ⟨⟨0 + input.length, []⟩, by simpa [Cursor.start] using yields 0 [], rfl⟩

/-- Just the values with the property come back from their encodings. -/
theorem Recovers.decode_iff_of_encode (law : codec.Recovers Proper) {value : α} {bytes : Bytes}
    (encoded : codec.encode value = .ok bytes) : codec.decode bytes = .ok value ↔ Proper value := by
  rw [law.decode_eq_ok_iff]
  exact and_iff_left encoded

/-- No input that is decoded goes on as another one that is. -/
theorem Recovers.eq_nil_of_decode_append (law : codec.Recovers Proper) {input tail : Bytes}
    {value longer : α} (decoded : codec.decode input = .ok value)
    (decodedLonger : codec.decode (input ++ tail) = .ok longer) : tail = [] := by
  rcases law.decode_eq_ok_iff.mp decoded with ⟨proper, encoded⟩
  rcases law.decode_eq_ok_iff.mp decodedLonger with ⟨properLonger, encodedLonger⟩
  have short := law.restores proper (encode_eq_ok_iff.mp encoded)
  have long := law.restores properLonger (encode_eq_ok_iff.mp encodedLonger)
  have joined : input ++ tail = (input ++ tail) ++ [] := (List.append_nil _).symm
  exact List.append_right_eq_self.mp (short.unique long joined).2.symm

end

end LedgerWire.Wire.Codec
