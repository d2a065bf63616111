import LedgerWire.Proofs.Wire.Law

/-!
Contract: the law of layouts of several kinds. The number of the kind stands first, so each kind
only has to be lawful among its own values, whatever its writer would do with others.

Owns:
- `Codec.Arm`, the law of the layout of one kind;
- the law for `arm`, for refinements that serve one kind, and for `union`.

Does not own: the kinds of any domain type.
-/

namespace LedgerWire.Wire.Codec

variable {α β γ : Type}

/-! ### One kind -/

/-- The layout of one kind: lawful among the values of the kind, and reading no others. -/
structure Arm (arm : Codec β) (tagOf : β → γ) (kind : γ) (Same : β → β → Prop) (Good : β → Prop) :
    Prop where
  lawful : arm.Lawful (fun x y => tagOf x = kind → tagOf y = kind → Same x y)
    (fun x => tagOf x = kind ∧ Good x)
  tag_of_read : ∀ ⦃cursor value after⦄, arm.read.run cursor = .ok value after → tagOf value = kind

/-- The layout of one kind, for equality and every value. -/
def FaithfulArm (arm : Codec β) (tagOf : β → γ) (kind : γ) : Prop :=
  arm.Arm tagOf kind Eq fun _ => True

theorem Arm.mono {arm : Codec β} {tagOf : β → γ} {kind : γ} {Same Same' : β → β → Prop}
    {Good Good' : β → Prop} (arms : arm.Arm tagOf kind Same Good)
    (same : ∀ x y, Same x y → Same' x y) (good : ∀ x, Good' x → Good x) :
    arm.Arm tagOf kind Same' Good' where
  lawful := arms.lawful.mono (fun x y related tagX tagY => same x y (related tagX tagY))
    (fun x isGood => ⟨isGood.1, good x isGood.2⟩)
  tag_of_read := arms.tag_of_read

section

variable {content : Codec α} {build : α → β} {view? : β → Option α} {tagOf : β → γ} {kind : γ}

/-- A kind whose values carry a content and nothing else. -/
theorem Lawful.toArm {SameContent : α → α → Prop} {GoodContent : α → Prop} {Same : β → β → Prop}
    {Good : β → Prop} (lawful : content.Lawful SameContent GoodContent)
    (view_eq_some : ∀ y x, view? y = some x ↔ build x = y)
    (tag_of_read : ∀ ⦃cursor x after⦄, content.read.run cursor = .ok x after →
      tagOf (build x) = kind)
    (same : ∀ ⦃x x'⦄, tagOf (build x) = kind → tagOf (build x') = kind → SameContent x x' →
      Same (build x) (build x'))
    (good : ∀ ⦃x⦄, tagOf (build x) = kind → Good (build x) → GoodContent x) :
    (content.arm build view?).Arm tagOf kind Same Good := by
  have write_build (x : α) : (content.arm build view?).write (build x) = content.write x := by
    simp only [Codec.arm, (view_eq_some (build x) x).mpr rfl]
  have eq_build {y : β} {bytes : Bytes}
      (written : (content.arm build view?).write y = .done bytes) :
      ∃ x, y = build x ∧ content.write x = .done bytes := by
    cases found : view? y with
    | none => simp [Codec.arm, found, Output.failed, Output.done] at written
    | some x =>
      obtain rfl := (view_eq_some y x).mp found
      exact ⟨x, rfl, by rwa [write_build] at written⟩
  refine ⟨⟨?_, ?_, ?_⟩, ?_⟩
  · intro cursor value after read
    simp only [Codec.arm, Outcome.run_bind_eq_ok, Outcome.run_pure_eq_ok] at read
    rcases read with ⟨x, _, read, rfl, rfl⟩
    rcases lawful.canonical read with ⟨front, split, written, yields⟩
    exact ⟨front, split, by rw [write_build, written], yields.bind_nil (Reader.yields_pure _)⟩
  · intro y y' left right leftRest rightRest writeY writeY' joined
    rcases eq_build writeY with ⟨x, rfl, writeX⟩
    rcases eq_build writeY' with ⟨x', rfl, writeX'⟩
    rcases lawful.unambiguous writeX writeX' joined with ⟨related, equal⟩
    exact ⟨fun tagX tagX' => same tagX tagX' related, equal⟩
  · intro y bytes good written
    rcases good with ⟨tagged, isGood⟩
    rcases eq_build written with ⟨x, rfl, writeX⟩
    rcases lawful.readable (good tagged isGood) writeX with ⟨result, yields⟩
    exact ⟨build result, yields.bind_nil (Reader.yields_pure _)⟩
  · intro cursor value after read
    simp only [Codec.arm, Outcome.run_bind_eq_ok, Outcome.run_pure_eq_ok] at read
    rcases read with ⟨x, _, read, rfl, rfl⟩
    exact tag_of_read read

theorem Faithful.toArm (faithful : content.Faithful)
    (view_eq_some : ∀ y x, view? y = some x ↔ build x = y)
    (tag_build : ∀ ⦃x bytes⦄, content.write x = .done bytes → tagOf (build x) = kind) :
    (content.arm build view?).FaithfulArm tagOf kind :=
  Lawful.toArm faithful view_eq_some
    (fun _ _ _ read => by
      rcases faithful.canonical read with ⟨_, _, written, _⟩
      exact tag_build written)
    (fun _ _ _ _ same => congrArg build same)
    (fun _ _ _ => trivial)

/-- A kind within a kind: the values of one kind of the content are those of one kind here. -/
theorem FaithfulArm.toArm {contentTag : α → γ} (faithful : content.FaithfulArm contentTag kind)
    (view_eq_some : ∀ y x, view? y = some x ↔ build x = y)
    (tag_build : ∀ x, tagOf (build x) = contentTag x) :
    (content.arm build view?).FaithfulArm tagOf kind :=
  Lawful.toArm faithful.lawful view_eq_some
    (fun _ _ _ read => (tag_build _).trans (faithful.tag_of_read read))
    (fun x x' tagX tagX' same =>
      congrArg build (same ((tag_build x).symm.trans tagX) ((tag_build x').symm.trans tagX')))
    (fun x tagX _ => ⟨(tag_build x).symm.trans tagX, trivial⟩)

/-- A kind whose values are the accepted ones among those of a layout. What the layout shows of
values of other kinds does not matter. -/
theorem Faithful.refineArm (faithful : content.Faithful) {check : α → Except Failure β}
    {view : β → α} (check_eq_ok : ∀ x y, check x = .ok y ↔ tagOf y = kind ∧ view y = x) :
    (content.refine check view).FaithfulArm tagOf kind where
  lawful := by
    refine Lawful.mono (Lawful.refine faithful ?_ ?_ ?_) ?_ fun _ good => good
    · intro x y _ _ accepted
      exact ((check_eq_ok x y).mp accepted).2
    · intro _ _
      trivial
    · intro y x _ good _ same
      exact ⟨y, (check_eq_ok x y).mpr ⟨good.1, same⟩⟩
    · intro y y' same tagY tagY'
      have accepted := (check_eq_ok _ y).mpr ⟨tagY, rfl⟩
      have accepted' := (check_eq_ok _ y').mpr ⟨tagY', rfl⟩
      rw [same, accepted'] at accepted
      exact (Except.ok.inj accepted).symm
  tag_of_read := by
    intro cursor value after read
    simp only [Codec.refine, Outcome.run_bind_eq_ok, Reader.run_ofExcept_eq_ok] at read
    rcases read with ⟨x, _, _, accepted, rfl⟩
    exact ((check_eq_ok x value).mp accepted).1

end

/-! ### All kinds -/

section

variable {tag : Codec γ} {tagOf : β → γ} {arms : γ → Option (Codec β)} {unknown : γ → Failure}

theorem write_union_eq_done_iff {value : β} {bytes : Bytes} :
    (union tag tagOf arms unknown).write value = .done bytes ↔
      ∃ arm front back, arms (tagOf value) = some arm ∧ tag.write (tagOf value) = .done front ∧
        arm.write value = .done back ∧ bytes = front ++ back := by
  simp only [Codec.union, Output.append_eq_done_iff]
  cases found : arms (tagOf value) with
  | none => simp [Output.failed, Output.done]
  | some arm =>
    constructor
    · intro parts
      rcases parts with ⟨front, back, writtenTag, written, joined⟩
      exact ⟨arm, front, back, rfl, writtenTag, written, joined⟩
    · intro parts
      rcases parts with ⟨_, front, back, same, writtenTag, written, joined⟩
      cases same
      exact ⟨front, back, writtenTag, written, joined⟩

theorem yields_union {kind : γ} {arm : Codec β} {front back : Bytes} {value : β}
    (found : arms kind = some arm) (yieldsTag : tag.read.Yields front kind)
    (yields : arm.read.Yields back value) :
    (union tag tagOf arms unknown).read.Yields (front ++ back) value := by
  apply yieldsTag.bind
  simpa only [found] using yields

/-- A union is lawful if each of its kinds is. -/
theorem Lawful.union {Same : β → β → Prop} {Good : β → Prop} (tagLaw : tag.Faithful)
    (armLaw : ∀ ⦃kind arm⦄, arms kind = some arm → arm.Arm tagOf kind Same Good) :
    (union tag tagOf arms unknown).Lawful Same Good where
  canonical := by
    intro cursor value after read
    simp only [Codec.union, Outcome.run_bind_eq_ok] at read
    rcases read with ⟨kind, between, readTag, read⟩
    cases found : arms kind with
    | none => simp [found] at read
    | some arm =>
      simp only [found] at read
      rcases tagLaw.canonical readTag with ⟨front, split, writtenTag, yieldsTag⟩
      rcases (armLaw found).lawful.canonical read with ⟨back, split', written, yields⟩
      obtain rfl := (armLaw found).tag_of_read read
      refine ⟨front ++ back, ?_, ?_, yields_union found yieldsTag yields⟩
      · rw [split, split', List.append_assoc]
      · exact write_union_eq_done_iff.mpr ⟨arm, front, back, found, writtenTag, written, rfl⟩
  unambiguous := by
    intro x y left right leftRest rightRest writeX writeY joined
    rcases write_union_eq_done_iff.mp writeX with ⟨arm, front, back, found, tagX, armX, rfl⟩
    rcases write_union_eq_done_iff.mp writeY with ⟨arm', front', back', found', tagY, armY, rfl⟩
    rw [List.append_assoc, List.append_assoc] at joined
    rcases tagLaw.unambiguous tagX tagY joined with ⟨sameTag, rfl⟩
    -- One number, so one layout: both sides are values of the same kind.
    rw [← sameTag, found] at found'
    obtain rfl := Option.some.inj found'
    obtain ⟨same, rfl⟩ :=
      (armLaw found).lawful.unambiguous armX armY (List.append_cancel_left joined)
    exact ⟨same rfl sameTag.symm, rfl⟩
  readable := by
    intro value bytes good written
    obtain ⟨arm, front, back, found, writtenTag, writtenArm, rfl⟩ :=
      write_union_eq_done_iff.mp written
    rcases (armLaw found).lawful.readable ⟨rfl, good⟩ writtenArm with ⟨result, yields⟩
    exact ⟨result, yields_union found (tagLaw.yields writtenTag) yields⟩

theorem Faithful.union (tagLaw : tag.Faithful)
    (armLaw : ∀ ⦃kind arm⦄, arms kind = some arm → arm.FaithfulArm tagOf kind) :
    (Codec.union tag tagOf arms unknown).Faithful :=
  Lawful.union tagLaw armLaw

theorem Wide.union (wide : tag.Wide) : (Codec.union tag tagOf arms unknown).Wide := by
  intro value bytes written
  rcases write_union_eq_done_iff.mp written with ⟨_, front, back, _, writtenTag, _, rfl⟩
  have enough := wide writtenTag
  rw [List.length_append]
  omega

/-- A type of one kind only, whose number says nothing. -/
theorem Faithful.union_one {kind : γ} {arm : Codec β} (tagLaw : tag.Faithful)
    (arms_eq : ∀ ⦃k c⦄, arms k = some c → k = kind ∧ c = arm) (faithful : arm.Faithful) :
    (Codec.union tag (fun _ => kind) arms unknown).Faithful := by
  apply Faithful.union tagLaw
  intro k c found
  rcases arms_eq found with ⟨rfl, rfl⟩
  exact ⟨faithful.mono (fun _ _ same _ _ => same) (fun _ _ => trivial), fun _ _ _ _ => rfl⟩

end

end LedgerWire.Wire.Codec
