import LedgerWire.Proofs.Transaction.Signing
import LedgerWire.Transaction.Store

/-!
Contract: what later steps leave of an object that is shared. Steps only add: objects, and
signatures to objects. An envelope of a transaction holds a copy, so it stays what it was; a fee
bump and every envelope of it refer to the transaction that is paid for, so what they hold and what
is signed for them changes with each signature that this transaction gets.

Owns:
- `Store.Step` and `Store.Run`, what can happen to a store, with the objects that got signatures;
- `Store.Extends`, what every run keeps, and `Store.Sound`, what every reached store satisfies;
- exactly when an envelope, and what is signed for it, stays the same.

Does not own: whether a signature is valid.
-/

namespace LedgerWire

open Wire Codec

@[simp] theorem Signed.append_nil {α : Type} (signed : Signed α) : signed.append [] = signed := by
  simp [Signed.append]

@[simp] theorem Signed.append_append {α : Type} (signed : Signed α)
    (first second : List DecoratedSignature) :
    (signed.append first).append second = signed.append (first ++ second) := by
  simp [Signed.append]

def FeeBumpCell.append (cell : FeeBumpCell) (signatures : List DecoratedSignature) : FeeBumpCell :=
  { cell with signatures := cell.signatures ++ signatures }

@[simp] theorem FeeBumpCell.append_nil (cell : FeeBumpCell) : cell.append [] = cell := by
  simp [FeeBumpCell.append]

@[simp] theorem FeeBumpCell.append_append (cell : FeeBumpCell)
    (first second : List DecoratedSignature) :
    (cell.append first).append second = cell.append (first ++ second) := by
  simp [FeeBumpCell.append]

/-- The envelope with further signatures on the transaction that a fee bump pays for. -/
def Envelope.appendInner (envelope : Envelope) (signatures : List DecoratedSignature) : Envelope :=
  match envelope.content with
  | .transaction _ => envelope
  | .feeBump bump =>
    { envelope with content := .feeBump { bump with inner := bump.inner.append signatures } }

namespace Store

/-! ### Steps and runs -/

/-- What can happen to a store, with the objects that got signatures, one entry a signature. A call
that is refused leaves the store, so there is no step for it. -/
inductive Step : Store → List Ref → Store → Prop
  | add (store : Store) (envelope : Envelope) : Step store [] (store.addEnvelope envelope).1
  | wrap {store after : Store} {feeSource : AccountSource} {fee : StroopsSource}
      {index : Nat} {ref : Ref}
      (made : store.wrap feeSource fee index = some (.ok (after, ref))) : Step store [] after
  | snapshot {store after : Store} (object : Ref) {ref : Ref}
      (taken : store.snapshot object = some (after, ref)) : Step store [] after
  | append (store : Store) (ref : Ref) (signatures : List DecoratedSignature) :
      Step store (List.replicate signatures.length ref) (store.append ref signatures)
  | sign {store after : Store} {ref : Ref} {key : SecretKey} {network : Network}
      (signed : store.sign ref key network = some (.ok after)) : Step store [ref] after

/-- Steps in any order, with all the objects that got signatures. -/
inductive Run : Store → List Ref → Store → Prop
  | refl (store : Store) : Run store [] store
  | step {before between after : Store} {refs more : List Ref} (run : Run before refs between)
      (step : Step between more after) : Run before (refs ++ more) after

/-! ### What every run keeps -/

/-- All objects are kept, each with as many further signatures as it has entries. -/
structure Extends (before : Store) (refs : List Ref) (after : Store) : Prop where
  transaction : ∀ ⦃index signed⦄, before.transaction? index = some signed →
    ∃ added, added.length = refs.count (.transaction index) ∧
      after.transaction? index = some (signed.append added)
  feeBump : ∀ ⦃index cell⦄, before.feeBumps[index]? = some cell →
    ∃ added, added.length = refs.count (.feeBump index) ∧
      after.feeBumps[index]? = some (cell.append added)

theorem Extends.refl (store : Store) : Extends store [] store where
  transaction := by
    intro index signed found
    exact ⟨[], rfl, by simp [found]⟩
  feeBump := by
    intro index cell found
    exact ⟨[], rfl, by simp [found]⟩

theorem Extends.trans {before between after : Store} {refs more : List Ref}
    (first : Extends before refs between) (second : Extends between more after) :
    Extends before (refs ++ more) after where
  transaction := by
    intro index signed found
    obtain ⟨added, count, foundBetween⟩ := first.transaction found
    obtain ⟨further, countMore, foundAfter⟩ := second.transaction foundBetween
    exact ⟨added ++ further, by simp [count, countMore], by simp [foundAfter]⟩
  feeBump := by
    intro index cell found
    obtain ⟨added, count, foundBetween⟩ := first.feeBump found
    obtain ⟨further, countMore, foundAfter⟩ := second.feeBump foundBetween
    exact ⟨added ++ further, by simp [count, countMore], by simp [foundAfter]⟩

theorem extends_of_added {before after : Store} {transactions : List (Signed Transaction)}
    {cells : List FeeBumpCell}
    (addedTransactions : after.transactions = before.transactions ++ transactions)
    (addedCells : after.feeBumps = before.feeBumps ++ cells) : Extends before [] after where
  transaction := by
    intro index signed found
    have inside : index < before.transactions.length := (List.getElem?_eq_some_iff.mp found).1
    refine ⟨[], rfl, ?_⟩
    rw [transaction?, addedTransactions, List.getElem?_append_left inside, Signed.append_nil]
    exact found
  feeBump := by
    intro index cell found
    have inside : index < before.feeBumps.length := (List.getElem?_eq_some_iff.mp found).1
    refine ⟨[], rfl, ?_⟩
    rw [addedCells, List.getElem?_append_left inside, FeeBumpCell.append_nil]
    exact found

theorem extends_append (store : Store) (ref : Ref) (signatures : List DecoratedSignature) :
    Extends store (List.replicate signatures.length ref) (store.append ref signatures) where
  transaction := by
    intro index signed found
    rw [transaction?] at found
    cases ref with
    | transaction other =>
      by_cases same : other = index
      · subst same
        exact ⟨signatures, by simp, by simp [transaction?, append, found]⟩
      · exact
          ⟨[], by simp [List.count_replicate, same], by simp [transaction?, append, same, found]⟩
    | feeBump other =>
      exact ⟨[], by simp [List.count_replicate], by simp [transaction?, append, found]⟩
  feeBump := by
    intro index cell found
    cases ref with
    | transaction other => exact ⟨[], by simp [List.count_replicate], by simp [append, found]⟩
    | feeBump other =>
      by_cases same : other = index
      · subst same
        exact ⟨signatures, by simp, by simp [append, found, FeeBumpCell.append]⟩
      · exact ⟨[], by simp [List.count_replicate, same], by simp [append, same, found]⟩

theorem wrap_eq_some_ok {store after : Store} {feeSource : AccountSource} {fee : StroopsSource}
    {index : Nat} {ref : Ref} (made : store.wrap feeSource fee index = some (.ok (after, ref))) :
    ∃ source paid, index < store.transactions.length ∧ ref = .feeBump store.feeBumps.length ∧
      after = { store with feeBumps := store.feeBumps ++ [⟨source, paid, index, []⟩] } := by
  simp only [wrap, Option.bind_eq_bind, Option.bind_eq_some_iff, Option.pure_def, Option.some.injEq,
    Outcome.bind_eq_ok_iff, Outcome.pure_eq_ok_iff, addCell, Prod.mk.injEq] at made
  obtain ⟨signed, found, paid, -, -, -, source, -, rfl, rfl⟩ := made
  exact ⟨source, paid, (List.getElem?_eq_some_iff.mp found).1, rfl, rfl⟩

theorem sign_eq_some_ok {store after : Store} {ref : Ref} {key : SecretKey} {network : Network}
    (signed : store.sign ref key network = some (.ok after)) :
    ∃ signature, after = store.append ref [signature] := by
  simp only [sign, Option.bind_eq_bind, Option.bind_eq_some_iff, Option.pure_def, Option.some.injEq,
    Outcome.bind_eq_ok_iff, Outcome.pure_eq_ok_iff] at signed
  obtain ⟨_, -, signature, -, rfl⟩ := signed
  exact ⟨signature, rfl⟩

theorem Step.extends {before after : Store} {refs : List Ref} (step : Step before refs after) :
    Extends before refs after := by
  cases step with
  | add envelope =>
    obtain ⟨content, signatures⟩ := envelope
    cases content with
    | transaction content => exact extends_of_added rfl (List.append_nil _).symm
    | feeBump content => exact extends_of_added rfl rfl
  | wrap made =>
    obtain ⟨source, paid, -, -, rfl⟩ := wrap_eq_some_ok made
    exact extends_of_added (List.append_nil _).symm rfl
  | snapshot object taken =>
    cases object with
    | transaction index =>
      obtain ⟨signed, -, same⟩ := Option.map_eq_some_iff.mp taken
      cases same
      exact extends_of_added rfl (List.append_nil _).symm
    | feeBump index =>
      obtain ⟨cell, -, same⟩ := Option.map_eq_some_iff.mp taken
      cases same
      exact extends_of_added (List.append_nil _).symm rfl
  | append ref signatures => exact extends_append before ref signatures
  | sign signed =>
    obtain ⟨signature, rfl⟩ := sign_eq_some_ok signed
    exact extends_append before _ [signature]

theorem Run.extends {before after : Store} {refs : List Ref} (run : Run before refs after) :
    Extends before refs after := by
  induction run with
  | refl => exact Extends.refl before
  | step run step inductionHypothesis => exact inductionHypothesis.trans step.extends

/-! ### Every reference leads somewhere -/

/-- Every fee bump refers to a transaction that there is. -/
def Sound (store : Store) : Prop := ∀ cell ∈ store.feeBumps, cell.inner < store.transactions.length

/-- A sound store stays sound with further transactions, and with further fee bumps for what there
is. -/
theorem Sound.add {before after : Store} {transactions : List (Signed Transaction)}
    {cells : List FeeBumpCell} (sound : before.Sound)
    (addedTransactions : after.transactions = before.transactions ++ transactions)
    (addedCells : after.feeBumps = before.feeBumps ++ cells)
    (inside : ∀ cell ∈ cells, cell.inner < after.transactions.length) : after.Sound := by
  intro cell member
  rw [addedCells, List.mem_append] at member
  rcases member with old | new
  · have bound := sound cell old
    rw [addedTransactions, List.length_append]
    omega
  · exact inside cell new

theorem Sound.append {store : Store} (sound : store.Sound) (ref : Ref)
    (signatures : List DecoratedSignature) : (store.append ref signatures).Sound := by
  intro cell member
  cases ref with
  | transaction index => simpa [Store.append] using sound cell member
  | feeBump index =>
    obtain ⟨place, inside, rfl⟩ := List.getElem_of_mem member
    simp only [Store.append, List.length_modify] at inside ⊢
    have bound := sound store.feeBumps[place] (List.getElem_mem inside)
    rw [List.getElem_modify]
    split
    · exact bound
    · exact bound

theorem Step.sound {before after : Store} {refs : List Ref} (step : Step before refs after)
    (sound : before.Sound) : after.Sound := by
  cases step with
  | add envelope =>
    obtain ⟨content, signatures⟩ := envelope
    cases content with
    | transaction content => exact sound.add rfl (List.append_nil _).symm (by simp)
    | feeBump content =>
      apply sound.add rfl rfl
      simp [addEnvelope, addFeeBump, addTransaction, addCell]
  | wrap made =>
    obtain ⟨source, paid, inside, -, rfl⟩ := wrap_eq_some_ok made
    exact sound.add (List.append_nil _).symm rfl (by simpa using inside)
  | snapshot object taken =>
    cases object with
    | transaction index =>
      obtain ⟨signed, -, same⟩ := Option.map_eq_some_iff.mp taken
      cases same
      exact sound.add rfl (List.append_nil _).symm (by simp)
    | feeBump index =>
      obtain ⟨cell, found, same⟩ := Option.map_eq_some_iff.mp taken
      cases same
      have inside := sound cell (List.mem_of_getElem? found)
      exact sound.add (List.append_nil _).symm rfl (by simpa using inside)
  | append ref signatures => exact sound.append ref signatures
  | sign signed =>
    obtain ⟨signature, rfl⟩ := sign_eq_some_ok signed
    exact sound.append _ [signature]

theorem Run.sound {before after : Store} {refs : List Ref} (run : Run before refs after)
    (sound : before.Sound) : after.Sound := by
  induction run with
  | refl => exact sound
  | step run step inductionHypothesis => exact step.sound inductionHypothesis

/-! ### Envelopes later on -/

/-- Whether the transaction that an object refers to, if it refers to one, got no signature. -/
def InnerUntouched (store : Store) (ref : Ref) (refs : List Ref) : Prop :=
  ∀ inner ∈ store.inner? ref, inner ∉ refs

/-- An envelope later on is the envelope with the signatures that the object and the transaction it
refers to have got. -/
theorem Extends.envelope? {before after : Store} {refs : List Ref}
    (extended : Extends before refs after)
    {ref : Ref} {envelope : Envelope} (found : before.envelope? ref = some envelope) :
    ∃ innerAdded added, (innerAdded = [] ↔ before.InnerUntouched ref refs) ∧
      (added = [] ↔ ref ∉ refs) ∧
        after.envelope? ref = some ((envelope.appendInner innerAdded).append added) := by
  cases ref with
  | transaction index =>
    obtain ⟨signed, foundSigned, rfl⟩ := Option.map_eq_some_iff.mp found
    obtain ⟨added, count, foundAfter⟩ := extended.transaction foundSigned
    refine ⟨[], added, by simp [InnerUntouched, inner?], ?_, ?_⟩
    · rw [← List.length_eq_zero_iff, count, List.count_eq_zero]
    · rw [Store.envelope?, foundAfter]
      rfl
  | feeBump index =>
    obtain ⟨bump, foundBump, rfl⟩ := Option.map_eq_some_iff.mp found
    simp only [feeBump?, Option.bind_eq_bind, Option.bind_eq_some_iff, Option.pure_def,
      Option.some.injEq] at foundBump
    obtain ⟨cell, foundCell, inner, foundInner, rfl⟩ := foundBump
    obtain ⟨added, count, cellAfter⟩ := extended.feeBump foundCell
    obtain ⟨innerAdded, innerCount, innerAfter⟩ := extended.transaction foundInner
    refine ⟨innerAdded, added, ?_, ?_, ?_⟩
    · rw [← List.length_eq_zero_iff, innerCount, List.count_eq_zero]
      simp [InnerUntouched, inner?, foundCell]
    · rw [← List.length_eq_zero_iff, count, List.count_eq_zero]
    · simp only [Store.envelope?, feeBump?, cellAfter, Option.bind_eq_bind, Option.bind_some,
        FeeBumpCell.append, innerAfter]
      rfl

theorem Sound.exists_envelope {store : Store} (sound : store.Sound) {index : Nat}
    {cell : FeeBumpCell}
    (found : store.feeBumps[index]? = some cell) :
    ∃ envelope, store.envelope? (.feeBump index) = some envelope := by
  have inside := sound cell (List.mem_of_getElem? found)
  simp [Store.envelope?, feeBump?, transaction?, found, inside]

end Store

namespace Envelope

@[simp] theorem appendInner_nil (envelope : Envelope) : envelope.appendInner [] = envelope := by
  obtain ⟨content, signatures⟩ := envelope
  cases content with
  | transaction content => rfl
  | feeBump content => simp [appendInner]

theorem eq_nil_of_sameBy_append {times : TimeRelation} {bump : FeeBump}
    {innerAdded : List DecoratedSignature}
    (same : bump.sameBy times { bump with inner := bump.inner.append innerAdded } = true) :
    innerAdded = [] := by
  have signatures := (FeeBump.sameBy_eq_true_iff.mp same).2.2.2
  simpa [Signed.append] using signatures

section

variable {envelope : Envelope} {innerAdded : List DecoratedSignature}

/-- An envelope has the same content with further signatures on the transaction that it pays for
only if there are none. -/
theorem eq_nil_of_sameBy_appendInner {times : TimeRelation}
    (bare : envelope.content.feeBump? = none → innerAdded = [])
    (same : envelope.content.sameBy times (envelope.appendInner innerAdded).content = true) :
    innerAdded = [] := by
  obtain ⟨content, signatures⟩ := envelope
  cases content with
  | transaction content => exact bare rfl
  | feeBump content => exact eq_nil_of_sameBy_append same

/-- What is signed for an envelope stays the same only without further signatures on the transaction
that it pays for. -/
theorem signatureData_appendInner_iff (bare : envelope.content.feeBump? = none → innerAdded = [])
    {network : Network} {data : Bytes}
    (signed : envelope.content.signatureData network = .ok data) :
    (envelope.appendInner innerAdded).content.signatureData network = .ok data ↔
      innerAdded = [] := by
  constructor
  · intro signedLater
    obtain ⟨back, encoded, rfl⟩ := TaggedTransaction.signatureData_eq_ok_iff.mp signed
    obtain ⟨back', encodedLater, joined⟩ := TaggedTransaction.signatureData_eq_ok_iff.mp signedLater
    obtain rfl := List.append_cancel_left joined
    exact eq_nil_of_sameBy_appendInner bare (TaggedTransaction.alike_of_encode encoded encodedLater)
  · intro none
    subst none
    simpa using signed

/-- The bytes of an envelope stay the same only without further signatures on the transaction that
it pays for. -/
theorem encode_appendInner_iff (bare : envelope.content.feeBump? = none → innerAdded = [])
    {bytes : Bytes} (encoded : Envelope.codec.encode envelope = .ok bytes) :
    Envelope.codec.encode (envelope.appendInner innerAdded) = .ok bytes ↔ innerAdded = [] := by
  constructor
  · intro encodedLater
    have alike := Envelope.lawful_codec.same_of_write (encode_eq_ok_iff.mp encoded)
      (encode_eq_ok_iff.mp encodedLater)
    exact eq_nil_of_sameBy_appendInner bare (Envelope.sameBy_eq_true_iff.mp alike).1
  · intro none
    subst none
    simpa using encoded

end

end Envelope

namespace Store

theorem innerUntouched_of_feeBump?_eq_none {store : Store} {ref : Ref} {refs : List Ref}
    {envelope : Envelope} (found : store.envelope? ref = some envelope)
    (bare : envelope.content.feeBump? = none) : store.InnerUntouched ref refs := by
  cases ref with
  | transaction index => simp [InnerUntouched, inner?]
  | feeBump index =>
    obtain ⟨bump, -, rfl⟩ := Option.map_eq_some_iff.mp found
    simp [Envelope.ofFeeBump, TaggedTransaction.feeBump?] at bare

/-- What is signed for an object stays the same later on exactly if the transaction that it refers
to got no signature, whatever signatures it got itself. If it got none, that is also when its
envelope stays the same, and its bytes do. -/
theorem Run.envelope?_later {before after : Store} {refs : List Ref} (run : Run before refs after)
    {ref : Ref} {envelope : Envelope} (found : before.envelope? ref = some envelope) :
    ∃ later, after.envelope? ref = some later ∧
      (∀ network data, envelope.content.signatureData network = .ok data →
        (later.content.signatureData network = .ok data ↔ before.InnerUntouched ref refs)) ∧
      (ref ∉ refs → (before.InnerUntouched ref refs → later = envelope) ∧
        ∀ bytes, Envelope.codec.encode envelope = .ok bytes →
          (Envelope.codec.encode later = .ok bytes ↔ before.InnerUntouched ref refs)) := by
  obtain ⟨innerAdded, added, untouched, unsigned, foundLater⟩ := run.extends.envelope? found
  have bare (isBare : envelope.content.feeBump? = none) : innerAdded = [] :=
    untouched.mpr (innerUntouched_of_feeBump?_eq_none found isBare)
  refine ⟨_, foundLater, ?_, ?_⟩
  · intro network data signed
    rw [← untouched, ← Envelope.signatureData_appendInner_iff bare signed]
    rfl
  · intro notSigned
    obtain rfl := unsigned.mpr notSigned
    rw [Signed.append_nil, ← untouched]
    refine ⟨?_, ?_⟩
    · intro none
      subst none
      exact Envelope.appendInner_nil envelope
    · intro bytes encoded
      exact Envelope.encode_appendInner_iff bare encoded

/-- An envelope is taken as a new object with the content that there is; it refers to what the
object refers to. -/
theorem snapshot_eq_some {store taken : Store} {object ref : Ref} (sound : store.Sound)
    (snapshot : store.snapshot object = some (taken, ref)) :
    ref ≠ object ∧ store.inner? object ≠ some ref ∧ taken.inner? ref = store.inner? object ∧
      ∃ envelope, store.envelope? object = some envelope ∧ taken.envelope? ref = some envelope := by
  cases object with
  | transaction index =>
    obtain ⟨signed, found, same⟩ := Option.map_eq_some_iff.mp snapshot
    cases same
    have inside : index < store.transactions.length := (List.getElem?_eq_some_iff.mp found).1
    refine ⟨?_, by simp [inner?], rfl, Envelope.ofTransaction signed, ?_, ?_⟩
    · intro same
      cases same
      omega
    · simp [envelope?, found]
    · simp [envelope?, transaction?]
  | feeBump index =>
    obtain ⟨cell, found, same⟩ := Option.map_eq_some_iff.mp snapshot
    cases same
    have inside : index < store.feeBumps.length := (List.getElem?_eq_some_iff.mp found).1
    refine ⟨?_, by simp [inner?, found], by simp [inner?, found], ?_⟩
    · intro same
      cases same
      omega
    · obtain ⟨envelope, around⟩ := sound.exists_envelope found
      refine ⟨envelope, around, ?_⟩
      rw [← around]
      simp [envelope?, feeBump?, transaction?, found]

/-- In every store that is reached: an envelope that is taken of a transaction or of a fee bump is a
new object and holds what the object does then. However the objects are wrapped, taken and signed
later, but for the envelope itself: it stays what it was, in its bytes and in what is signed for it,
exactly if the transaction that the object refers to, if it refers to one, got no signature. So an
envelope of a transaction always stays what it was. What is signed for a fee bump stays the same
exactly if the transaction that it was made for got no signature since. -/
theorem envelope_later_iff_innerUntouched
    {store : Store}
    {history : List Ref}
    (reached : Run empty history store) :
    (∀ ⦃object ref taken⦄, store.snapshot object = some (taken, ref) →
      ref ≠ object ∧ store.inner? object ≠ some ref ∧
        ∃ envelope, store.envelope? object = some envelope ∧ taken.envelope? ref = some envelope ∧
          ∀ ⦃refs after⦄, Run taken refs after → ref ∉ refs →
            ∃ later, after.envelope? ref = some later ∧
              (store.InnerUntouched object refs → later = envelope) ∧
              (∀ bytes, Envelope.codec.encode envelope = .ok bytes →
                (Envelope.codec.encode later = .ok bytes ↔ store.InnerUntouched object refs)) ∧
              (∀ network data, envelope.content.signatureData network = .ok data →
                (later.content.signatureData network = .ok data ↔
                  store.InnerUntouched object refs))) ∧
    (∀ ⦃feeSource fee index ref taken⦄, store.wrap feeSource fee index = some (.ok (taken, ref)) →
      ∃ envelope, taken.envelope? ref = some envelope ∧
        ∀ ⦃refs after⦄, Run taken refs after →
          ∃ later, after.envelope? ref = some later ∧
            ∀ network data, envelope.content.signatureData network = .ok data →
              (later.content.signatureData network = .ok data ↔ .transaction index ∉ refs)) := by
  have sound : store.Sound := reached.sound (by simp [Sound, empty])
  constructor
  · intro object ref taken snapshot
    obtain ⟨fresh, notInner, sameInner, envelope, around, taken_around⟩ :=
      snapshot_eq_some sound snapshot
    refine ⟨fresh, notInner, envelope, around, taken_around, ?_⟩
    intro refs after run notSigned
    obtain ⟨later, found, signed, kept⟩ := run.envelope?_later taken_around
    have sameUntouched : taken.InnerUntouched ref refs ↔ store.InnerUntouched object refs := by
      rw [InnerUntouched, InnerUntouched, sameInner]
    rw [sameUntouched] at signed kept
    exact ⟨later, found, (kept notSigned).1, (kept notSigned).2, signed⟩
  · intro feeSource fee index ref taken made
    have takenSound : taken.Sound := (Step.wrap made).sound sound
    obtain ⟨source, paid, -, rfl, isTaken⟩ := wrap_eq_some_ok made
    have cell : taken.feeBumps[store.feeBumps.length]? = some ⟨source, paid, index, []⟩ := by
      rw [isTaken]
      exact List.getElem?_concat_length
    obtain ⟨envelope, around⟩ := takenSound.exists_envelope cell
    refine ⟨envelope, around, ?_⟩
    intro refs after run
    obtain ⟨later, found, signed, -⟩ := run.envelope?_later around
    have untouched : taken.InnerUntouched (.feeBump store.feeBumps.length) refs ↔
        .transaction index ∉ refs := by
      simp [InnerUntouched, inner?, cell]
    rw [untouched] at signed
    exact ⟨later, found, signed⟩

theorem exists_sign {store : Store} {ref : Ref} {envelope : Envelope}
    (found : store.envelope? ref = some envelope) {network : Network} {data : Bytes}
    (toSign : envelope.content.signatureData network = .ok data) (key : SecretKey) :
    ∃ signature, store.sign ref key network = some (.ok (store.append ref [signature])) := by
  refine ⟨key.signDecorated (sha256 data), ?_⟩
  simp [sign, found, TaggedTransaction.sign, TaggedTransaction.hash, toSign, bind,
    Except.bind, pure, Except.pure]

/-- A store with a transaction and a fee bump for it. -/
def wrapped : Store :=
  ⟨[⟨Transaction.inflation, []⟩], [⟨Transaction.inflation.source, ⟨200, by decide⟩, 0, []⟩]⟩

theorem run_wrapped : Run empty [] wrapped := by
  have added : Run empty [] ⟨[⟨Transaction.inflation, []⟩], []⟩ :=
    .step (.refl empty) (.add empty ⟨.transaction Transaction.inflation, []⟩)
  have made : (⟨[⟨Transaction.inflation, []⟩], []⟩ : Store).wrap
      (.account Transaction.inflation.source) (.stroops ⟨200, by decide⟩) 0 =
        some (.ok (wrapped, .feeBump 0)) := rfl
  exact .step added (.wrap made)

/-- An envelope is taken of the fee bump, and then the transaction that it pays for is signed: the
bytes of the envelope are no longer what they were. -/
theorem envelope_later_iff_innerUntouched_wrapped :
    ∃ taken signed before later bytes, wrapped.snapshot (.feeBump 0) = some (taken, .feeBump 1) ∧
      taken.sign (.transaction 0) ⟨⟨List.replicate 32 1, rfl⟩⟩ .testNetwork = some (.ok signed) ∧
        taken.envelope? (.feeBump 1) = some before ∧ signed.envelope? (.feeBump 1) = some later ∧
          Envelope.codec.encode before = .ok bytes ∧ Envelope.codec.encode later ≠ .ok bytes := by
  obtain ⟨taken, snapshot⟩ : ∃ taken, wrapped.snapshot (.feeBump 0) = some (taken, .feeBump 1) :=
    ⟨_, rfl⟩
  obtain ⟨-, -, before, isBefore, around, keeps⟩ :=
    (envelope_later_iff_innerUntouched run_wrapped).1 snapshot
  obtain rfl : _ = before := Option.some.inj isBefore
  obtain ⟨back, encoded⟩ :
      ∃ back, TaggedTransaction.codec.encode (.transaction Transaction.inflation) =
      .ok back := ⟨_, rfl⟩
  have toSign : (TaggedTransaction.transaction Transaction.inflation).signatureData .testNetwork =
      .ok (Network.testNetwork.id.bytes ++ back) :=
    TaggedTransaction.signatureData_eq_ok_iff.mpr ⟨back, encoded, rfl⟩
  have found : taken.envelope? (.transaction 0) =
      some ⟨.transaction Transaction.inflation, []⟩ := by
    cases snapshot
    rfl
  obtain ⟨signature, signed⟩ := exists_sign found toSign ⟨⟨List.replicate 32 1, rfl⟩⟩
  obtain ⟨later, foundLater, -, changed, -⟩ := keeps (.step (.refl taken) (.sign signed)) (by simp)
  let bump : FeeBump :=
    ⟨Transaction.inflation.source, ⟨200, by decide⟩, ⟨Transaction.inflation, []⟩⟩
  obtain ⟨bytes, encodedBefore⟩ :
      ∃ bytes, Envelope.codec.encode (Envelope.ofFeeBump ⟨bump, []⟩) = .ok bytes := ⟨_, rfl⟩
  refine ⟨taken, _, _, later, bytes, snapshot, signed, around, foundLater, encodedBefore, ?_⟩
  rw [ne_eq, changed bytes encodedBefore]
  simp [InnerUntouched, inner?, wrapped]

end Store

end LedgerWire
