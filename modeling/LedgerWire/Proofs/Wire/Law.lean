import LedgerWire.Proofs.Wire.Reading
import LedgerWire.Wire.Codec

/-!
Contract: the law of a layout, and its passage through the ways to put layouts together.

A layout is lawful for a relation `Same` and a condition `Good` if three things hold. What is read
was written: the reader takes exactly the bytes that the writer gives for the value. What is written
tells its value: no two values that are not `Same` have encodings that can be taken for one another.
What is written of a `Good` value can be read. The relation is equality wherever values are kept as
they are read; it is coarser only where a time is shown on a clock that the wire does not carry.

Owns:
- `Codec.Lawful`, and `Codec.Faithful` for equality and every value;
- the law for `pair`, `convert`, `refine`, `arm` and `union`;
- `Codec.Wide`, the least width that a count of elements relies on.

Does not own: the primitives, optional values and lists.
-/

namespace LedgerWire.Wire.Codec

variable {α β γ : Type}

/-! ### The law -/

/-- What is read was written, what is written tells its value, and good values can be read back. -/
structure Lawful (codec : Codec α) (Same : α → α → Prop) (Good : α → Prop) : Prop where
  canonical : ∀ ⦃cursor value after⦄, codec.read.run cursor = .ok value after →
    ∃ front, cursor.rest = front ++ after.rest ∧ codec.write value = .done front ∧
      codec.read.Yields front value
  unambiguous : ∀ ⦃x y left right leftRest rightRest⦄,
    codec.write x = .done left → codec.write y = .done right →
      left ++ leftRest = right ++ rightRest → Same x y ∧ left = right
  readable : ∀ ⦃value bytes⦄, Good value → codec.write value = .done bytes →
    ∃ result, codec.read.Yields bytes result

/-- The law for equality and every value: writing and reading are inverse to each other. -/
def Faithful (codec : Codec α) : Prop := codec.Lawful Eq fun _ => True

namespace Lawful

variable {codec : Codec α} {Same : α → α → Prop} {Good : α → Prop}

theorem mono {Same' : α → α → Prop} {Good' : α → Prop} (lawful : codec.Lawful Same Good)
    (same : ∀ x y, Same x y → Same' x y) (good : ∀ x, Good' x → Good x) :
    codec.Lawful Same' Good' where
  canonical := lawful.canonical
  unambiguous := by
    intro x y left right leftRest rightRest writeX writeY joined
    rcases lawful.unambiguous writeX writeY joined with ⟨related, equal⟩
    exact ⟨same x y related, equal⟩
  readable := by
    intro value bytes isGood written
    exact lawful.readable (good value isGood) written

theorem write_of_yields (lawful : codec.Lawful Same Good) {bytes : Bytes} {value : α}
    (yields : codec.read.Yields bytes value) : codec.write value = .done bytes := by
  rcases lawful.canonical (yields 0 []) with ⟨front, split, written, -⟩
  rw [written, List.append_cancel_right split]

theorem same_of_write (lawful : codec.Lawful Same Good) {x y : α} {bytes : Bytes}
    (writeX : codec.write x = .done bytes) (writeY : codec.write y = .done bytes) : Same x y :=
  (lawful.unambiguous writeX writeY (rfl : bytes ++ [] = bytes ++ [])).1

/-- From the encoding of a good value a value is read that is the same, whatever follows. -/
theorem exists_yields_same (lawful : codec.Lawful Same Good) {value : α} {bytes : Bytes}
    (good : Good value) (written : codec.write value = .done bytes) :
    ∃ result, codec.read.Yields bytes result ∧ codec.write result = .done bytes ∧
      Same value result := by
  rcases lawful.readable good written with ⟨result, yields⟩
  have rewritten := lawful.write_of_yields yields
  exact ⟨result, yields, rewritten, lawful.same_of_write written rewritten⟩

end Lawful

/-- A layout is faithful if it reads only what it writes, and reads all that it writes. -/
theorem faithful_of_yields {codec : Codec α}
    (canonical : ∀ ⦃cursor value after⦄, codec.read.run cursor = .ok value after →
      ∃ front, cursor.rest = front ++ after.rest ∧ codec.write value = .done front)
    (yields : ∀ ⦃value bytes⦄, codec.write value = .done bytes → codec.read.Yields bytes value) :
    codec.Faithful where
  canonical := by
    intro cursor value after read
    rcases canonical read with ⟨front, split, written⟩
    exact ⟨front, split, written, yields written⟩
  unambiguous := by
    intro x y left right leftRest rightRest writeX writeY joined
    exact (yields writeX).unique (yields writeY) joined
  readable := by
    intro value bytes _ written
    exact ⟨value, yields written⟩

theorem Faithful.yields {codec : Codec α} (faithful : codec.Faithful) {value : α} {bytes : Bytes}
    (written : codec.write value = .done bytes) : codec.read.Yields bytes value := by
  rcases faithful.exists_yields_same trivial written with ⟨result, yields, -, rfl⟩
  exact yields

/-- Every encoding has at least four bytes. -/
def Wide (codec : Codec α) : Prop :=
    ∀ ⦃value bytes⦄, codec.write value = .done bytes → 4 ≤ bytes.length

/-! ### Pairs -/

theorem Lawful.pair {first : Codec α} {second : Codec β} {SameFirst : α → α → Prop}
    {SameSecond : β → β → Prop} {GoodFirst : α → Prop} {GoodSecond : β → Prop}
    (firstLaw : first.Lawful SameFirst GoodFirst)
    (secondLaw : second.Lawful SameSecond GoodSecond) :
    (first.pair second).Lawful (fun x y => SameFirst x.1 y.1 ∧ SameSecond x.2 y.2)
      (fun x => GoodFirst x.1 ∧ GoodSecond x.2) where
  canonical := by
    intro cursor value after read
    simp only [Codec.pair, Outcome.run_bind_eq_ok, Outcome.run_pure_eq_ok] at read
    rcases read with ⟨left, between, readLeft, right, _, readRight, rfl, rfl⟩
    rcases firstLaw.canonical readLeft with ⟨front, split, written, yields⟩
    rcases secondLaw.canonical readRight with ⟨back, split', written', yields'⟩
    refine ⟨front ++ back, ?_, ?_, ?_⟩
    · rw [split, split', List.append_assoc]
    · simp only [Codec.pair, written, written', Output.done_append_done]
    · exact yields.bind (yields'.bind_nil (Reader.yields_pure _))
  unambiguous := by
    intro x y left right leftRest rightRest writeX writeY joined
    rcases Output.append_eq_done_iff.mp writeX with ⟨frontX, backX, writeX₁, writeX₂, rfl⟩
    rcases Output.append_eq_done_iff.mp writeY with ⟨frontY, backY, writeY₁, writeY₂, rfl⟩
    -- The first encodings are cut off together, so the second ones start at the same place.
    rw [List.append_assoc, List.append_assoc] at joined
    rcases firstLaw.unambiguous writeX₁ writeY₁ joined with ⟨sameFirst, rfl⟩
    obtain ⟨sameSecond, rfl⟩ :=
      secondLaw.unambiguous writeX₂ writeY₂ (List.append_cancel_left joined)
    exact ⟨⟨sameFirst, sameSecond⟩, rfl⟩
  readable := by
    intro value bytes good written
    rcases Output.append_eq_done_iff.mp written with ⟨front, back, writtenFirst, writtenSecond, rfl⟩
    rcases firstLaw.readable good.1 writtenFirst with ⟨left, yieldsLeft⟩
    rcases secondLaw.readable good.2 writtenSecond with ⟨right, yieldsRight⟩
    exact ⟨(left, right), yieldsLeft.bind (yieldsRight.bind_nil (Reader.yields_pure _))⟩

theorem Faithful.pair {first : Codec α} {second : Codec β} (firstLaw : first.Faithful)
    (secondLaw : second.Faithful) : (first.pair second).Faithful :=
  (Lawful.pair firstLaw secondLaw).mono (fun _ _ same => Prod.ext same.1 same.2)
    (fun _ _ => ⟨trivial, trivial⟩)

theorem Wide.pair {first : Codec α} (wide : first.Wide) (second : Codec β) :
    (first.pair second).Wide := by
  intro value bytes written
  rcases Output.append_eq_done_iff.mp written with ⟨front, back, writtenFirst, -, rfl⟩
  have enough := wide writtenFirst
  rw [List.length_append]
  omega

/-! ### Conversions -/

/-- The same layout for another type, where what is built shows what it was built from. -/
theorem Lawful.convert {codec : Codec α} {Same : α → α → Prop} {Good : α → Prop}
    (lawful : codec.Lawful Same Good) {build : α → β} {view : β → α}
    (view_build : ∀ x, view (build x) = x) :
    (codec.convert build view).Lawful (fun x y => Same (view x) (view y))
      (fun x => Good (view x)) where
  canonical := by
    intro cursor value after read
    simp only [Codec.convert, Outcome.run_bind_eq_ok, Outcome.run_pure_eq_ok] at read
    rcases read with ⟨content, _, read, rfl, rfl⟩
    rcases lawful.canonical read with ⟨front, split, written, yields⟩
    refine ⟨front, split, ?_, yields.bind_nil (Reader.yields_pure _)⟩
    simp only [Codec.convert, view_build, written]
  unambiguous := by
    intro x y left right leftRest rightRest writeX writeY joined
    exact lawful.unambiguous writeX writeY joined
  readable := by
    intro value bytes good written
    rcases lawful.readable good written with ⟨content, yields⟩
    exact ⟨build content, yields.bind_nil (Reader.yields_pure _)⟩

theorem Faithful.convert {codec : Codec α} (faithful : codec.Faithful) {build : α → β}
    {view : β → α}
    (view_build : ∀ x, view (build x) = x) (build_view : ∀ y, build (view y) = y) :
    (codec.convert build view).Faithful :=
  (Lawful.convert faithful view_build).mono
    (fun x y same => by rw [← build_view x, same, build_view]) (fun _ _ => trivial)

theorem Wide.convert {codec : Codec α} (wide : codec.Wide) (build : α → β) (view : β → α) :
    (codec.convert build view).Wide :=
  fun _ _ written => wide written

/-! ### Refinements -/

/-- The same layout for the accepted values: an accepted one is shown as it was, and what a good
value shows is accepted in every form that is the same. Only what has an encoding is ever
checked. -/
theorem Lawful.refine {codec : Codec α} {Same : α → α → Prop} {Good : α → Prop}
    {GoodRefined : β → Prop} (lawful : codec.Lawful Same Good) {check : α → Except Failure β}
    {view : β → α}
    (view_check : ∀ ⦃x y bytes⦄, codec.write x = .done bytes → check x = .ok y → view y = x)
    (good_view : ∀ ⦃y⦄, GoodRefined y → Good (view y))
    (check_view : ∀ ⦃y x bytes⦄, GoodRefined y → codec.write (view y) = .done bytes →
      Same (view y) x → ∃ z, check x = .ok z) :
    (codec.refine check view).Lawful (fun x y => Same (view x) (view y)) GoodRefined where
  canonical := by
    intro cursor value after read
    simp only [Codec.refine, Outcome.run_bind_eq_ok, Reader.run_ofExcept_eq_ok] at read
    rcases read with ⟨content, _, read, checked, rfl⟩
    rcases lawful.canonical read with ⟨front, split, written, yields⟩
    refine ⟨front, split, ?_, yields.bind_nil (Reader.yields_ofExcept checked)⟩
    simp only [Codec.refine, view_check written checked, written]
  unambiguous := by
    intro x y left right leftRest rightRest writeX writeY joined
    exact lawful.unambiguous writeX writeY joined
  readable := by
    intro value bytes good written
    rcases lawful.exists_yields_same (good_view good) written with ⟨content, yields, -, same⟩
    rcases check_view good written same with ⟨accepted, checked⟩
    exact ⟨accepted, yields.bind_nil (Reader.yields_ofExcept checked)⟩

theorem Faithful.refine {codec : Codec α} (faithful : codec.Faithful) {check : α → Except Failure β}
    {view : β → α}
    (view_check : ∀ ⦃x y bytes⦄, codec.write x = .done bytes → check x = .ok y → view y = x)
    (check_view : ∀ ⦃y bytes⦄, codec.write (view y) = .done bytes → check (view y) = .ok y) :
    (codec.refine check view).Faithful :=
  faithful_of_yields
    (fun _ _ _ read => by
      simp only [Codec.refine, Outcome.run_bind_eq_ok, Reader.run_ofExcept_eq_ok] at read
      rcases read with ⟨content, _, read, checked, rfl⟩
      rcases faithful.canonical read with ⟨front, split, written, -⟩
      exact ⟨front, split, by simp only [Codec.refine, view_check written checked, written]⟩)
    (fun _ _ written =>
      (faithful.yields written).bind_nil (Reader.yields_ofExcept (check_view written)))

theorem Wide.refine {codec : Codec α} (wide : codec.Wide) (check : α → Except Failure β)
    (view : β → α) : (codec.refine check view).Wide :=
  fun _ _ written => wide written

/-! ### Whole inputs -/

theorem encode_eq_ok_iff {codec : Codec α} {value : α} {bytes : Bytes} :
    codec.encode value = .ok bytes ↔ codec.write value = .done bytes := by
  rw [encode, Output.toExcept]
  rcases codec.write value with ⟨written, failure⟩
  cases failure with
  | none => simp [Output.done]
  | some failure => simp [Output.done]

namespace Lawful

variable {codec : Codec α} {Same : α → α → Prop} {Good : α → Prop}

/-- An input is decoded to the value that its bytes yield anywhere. -/
theorem decode_eq_ok_iff_yields (lawful : codec.Lawful Same Good) {input : Bytes} {value : α} :
    codec.decode input = .ok value ↔ codec.read.Yields input value := by
  rw [decode, Reader.readAll_eq_ok]
  constructor
  · intro whole
    rcases whole with ⟨after, read, rest⟩
    rcases lawful.canonical read with ⟨front, split, -, yields⟩
    rw [rest, List.append_nil] at split
    obtain rfl : input = front := split
    exact yields
  · intro yields
    exact ⟨⟨0 + input.length, []⟩, by simpa [Cursor.start] using yields 0 [], rfl⟩

theorem encode_of_decode (lawful : codec.Lawful Same Good) {input : Bytes} {value : α}
    (decoded : codec.decode input = .ok value) : codec.encode value = .ok input := by
  rw [encode_eq_ok_iff]
  exact lawful.write_of_yields (lawful.decode_eq_ok_iff_yields.mp decoded)

/-- No input that is decoded goes on as another one that is. -/
theorem eq_nil_of_decode_append (lawful : codec.Lawful Same Good) {input tail : Bytes}
    {value longer : α} (decoded : codec.decode input = .ok value)
    (decodedLonger : codec.decode (input ++ tail) = .ok longer) : tail = [] := by
  have short := lawful.decode_eq_ok_iff_yields.mp decoded
  have long := lawful.decode_eq_ok_iff_yields.mp decodedLonger
  have joined : input ++ tail = (input ++ tail) ++ [] := (List.append_nil _).symm
  exact List.append_right_eq_self.mp (short.unique long joined).2.symm

end Lawful

end LedgerWire.Wire.Codec
