import LedgerWire.Proofs.Layout.Transaction
import LedgerWire.Transaction.Builder

/-!
Contract: envelopes and their bytes. What building gives is read back wherever it stands, unless its
conditions are too deep or its times are not in the years or the order that readers want; it is the
same again exactly if the Unix times of all its times stand for them. What is read has no other
bytes.

Owns:
- `Envelope.Built`, the envelopes around what a transaction builder gives, wrapped in a fee bump or
  not;
- what becomes of the encoding of built envelopes, and the uniqueness of the bytes of any envelope
  that is read.

Does not own: what is signed.
-/

namespace LedgerWire

open Wire Codec

/-! ### Built transactions -/

namespace TransactionBuilder

theorem run_checkUnused_eq_ok {builder after : TransactionBuilder} {done : Unit} :
    checkUnused.run builder = .ok done after ↔ builder.consumed = false ∧ after = builder := by
  simp only [checkUnused, Outcome.run_bind_eq_ok, Outcome.run_get_eq_ok]
  constructor
  · intro steps
    rcases steps with ⟨_, _, ⟨rfl, rfl⟩, run⟩
    split_ifs at run with used
    · exact absurd run Outcome.run_throw_ne_ok
    · obtain ⟨-, rfl⟩ := Outcome.run_pure_eq_ok.mp run
      exact ⟨by simpa using used, rfl⟩
  · intro start
    rcases start with ⟨unused, rfl⟩
    refine ⟨after, after, ⟨rfl, rfl⟩, ?_⟩
    simp [unused]

theorem run_build_eq_ok {builder after : TransactionBuilder} {built : Signed Transaction} :
    build.run builder = .ok built after ↔
      builder.consumed = false ∧ after = { builder with consumed := true } ∧
        ∃ tx, builder.toTransaction = .ok tx ∧ built = Signed.unsigned tx := by
  simp only [build, Outcome.run_bind_eq_ok, run_checkUnused_eq_ok, Outcome.run_get_eq_ok,
    Outcome.run_set_eq_ok]
  constructor
  · intro steps
    rcases steps with ⟨_, _, ⟨unused, rfl⟩, _, _, ⟨rfl, rfl⟩, _, _, rfl, run⟩
    cases made : TransactionBuilder.toTransaction _ with
    | error failure => simp [made] at run
    | ok tx =>
      simp only [made, Outcome.run_pure_eq_ok] at run
      obtain ⟨rfl, rfl⟩ := run
      exact ⟨unused, rfl, tx, rfl, rfl⟩
  · intro parts
    rcases parts with ⟨unused, rfl, tx, made, rfl⟩
    refine ⟨(), builder, ⟨unused, rfl⟩, builder, builder, ⟨rfl, rfl⟩, (), _, rfl, ?_⟩
    simp [made]

theorem operations_ne_nil_of_build {builder after : TransactionBuilder} {built : Signed Transaction}
    (run : build.run builder = .ok built after) : built.content.operations ≠ [] := by
  obtain ⟨-, -, tx, made, rfl⟩ := run_build_eq_ok.mp run
  rw [toTransaction] at made
  cases noted : builder.fault with
  | some fault => simp [noted] at made
  | none =>
    simp only [noted] at made
    split_ifs at made with empty
    simp only [Outcome.bind_eq_ok_iff, Outcome.pure_eq_ok_iff] at made
    obtain ⟨fee, -, rfl⟩ := made
    simpa [Signed.unsigned] using empty

end TransactionBuilder

namespace Envelope

/-- The envelopes around what a builder gives, whatever operations, memo and time bounds it was
filled with: the transaction itself, or a fee bump made for it; with any signatures on either. -/
inductive Built : Envelope → Prop
  | transaction {builder after : TransactionBuilder} {built : Signed Transaction}
      (run : TransactionBuilder.build.run builder = .ok built after)
      (signatures : List DecoratedSignature) :
      Built ⟨.transaction built.content, signatures⟩
  | feeBump {builder after : TransactionBuilder} {built : Signed Transaction}
      (run : TransactionBuilder.build.run builder = .ok built after)
      (innerSignatures : List DecoratedSignature)
      {feeSource : MuxedAccount} {fee : Stroops} {bump : FeeBump}
      (made : FeeBump.make feeSource fee ⟨built.content, innerSignatures⟩ = .ok bump)
      (signatures : List DecoratedSignature) :
      Built ⟨.feeBump bump, signatures⟩

theorem Built.wellMade {envelope : Envelope} (built : Built envelope) :
    envelope.content.WellMade := by
  cases built with
  | transaction run signatures => exact TransactionBuilder.operations_ne_nil_of_build run
  | feeBump run innerSignatures made signatures =>
    have hasOperations := TransactionBuilder.operations_ne_nil_of_build run
    obtain ⟨enough, rfl⟩ := FeeBump.make_eq_ok_iff.mp made
    exact ⟨hasOperations, enough⟩

/-- Whether a byte string is an envelope. -/
def Accepts (input : Bytes) : Prop := ∃ envelope, Envelope.codec.decode input = .ok envelope

/-- The encoding of a built envelope is an envelope exactly if the conditions on its claims are no
deeper than the limit, UTC can show its times, and its time bounds are in order there. It is read
wherever it stands and nothing of what follows is used, and gives the same Unix times and all else
that was written; it gives the same envelope exactly if these Unix times stand for the times. -/
theorem decode_encode_iff_of_built
    {envelope : Envelope}
    {bytes : Bytes}
    (built : Built envelope)
    (encoded : Envelope.codec.encode envelope = .ok bytes) :
    (Accepts bytes ↔ envelope.content.Decodable) ∧
      ∀ result, Envelope.codec.decode bytes = .ok result →
        (∀ offset tail, Envelope.codec.read.run ⟨offset, bytes ++ tail⟩ =
          .ok result ⟨offset + bytes.length, tail⟩) ∧
        Envelope.sameBy Moment.alike envelope result = true ∧
        (Envelope.same envelope result = true ↔ envelope.content.Every Moment.Exact) := by
  have written := encode_eq_ok_iff.mp encoded
  have yields {result : Envelope} (decoded : Envelope.codec.decode bytes = .ok result) :
      Envelope.codec.read.Yields bytes result :=
    Envelope.lawful_codec.decode_eq_ok_iff_yields.mp decoded
  have alike {result : Envelope} (decoded : Envelope.codec.decode bytes = .ok result) :
      Envelope.sameBy Moment.alike envelope result = true :=
    Envelope.lawful_codec.same_of_write written
      (Envelope.lawful_codec.write_of_yields (yields decoded))
  refine ⟨⟨?_, ?_⟩, ?_⟩
  · intro accepted
    obtain ⟨result, decoded⟩ := accepted
    exact (Envelope.decodable_congr (alike decoded)).mpr (Envelope.reads_codec.of_decode decoded).1
  · intro decodable
    obtain ⟨result, readBack, -⟩ :=
      Envelope.lawful_codec.exists_yields_same ⟨built.wellMade, decodable⟩ written
    exact ⟨result, Envelope.lawful_codec.decode_eq_ok_iff_yields.mpr readBack⟩
  · intro result decoded
    have definite := (Envelope.reads_codec.of_decode decoded).2.mono fun _ => Moment.InUtc.definite
    exact ⟨yields decoded, alike decoded, Envelope.same_iff_exact (alike decoded) definite⟩

/-- The condition that a deadline is over, which is stated on a clock two hours ahead of UTC. -/
def overdue : ClaimPredicate :=
  .not (.beforeAbsolute ⟨1600000000, false, Zone.fixed ⟨7200000000, by decide⟩, by decide⟩)

/-- A transaction that is valid until the year 2020 starts on a clock half a second ahead of UTC,
and that puts an amount aside, to be claimed after a deadline. -/
def escrow : Transaction :=
  let claimant : Claimant := ⟨⟨⟨List.replicate 32 8, rfl⟩⟩, overdue⟩
  { Transaction.inflation with
    timeBounds := some (TimeBounds.validUntil Moment.halfSecond Moment.positive_halfSecond)
    memo := .id 3 (by decide)
    operations := [⟨none, .createClaimableBalance ⟨.native, ⟨5, by decide⟩, [claimant]⟩⟩] }

/-- A fee bump for the escrow is read back, and is not the same as before: the half second is
lost. -/
theorem decode_encode_iff_of_built_escrow :
    ∃ bump bytes result, Built ⟨.feeBump bump, []⟩ ∧ bump.inner.content = escrow ∧
      Envelope.codec.encode ⟨.feeBump bump, []⟩ = .ok bytes ∧
        Envelope.codec.decode bytes = .ok result ∧
          Envelope.same ⟨.feeBump bump, []⟩ result = false := by
  let builder : TransactionBuilder :=
    ⟨escrow.source, 1, escrow.fee, escrow.timeBounds, escrow.memo, escrow.operations, none, false⟩
  let bump : FeeBump := ⟨escrow.source, ⟨200, by decide⟩, ⟨escrow, []⟩⟩
  have run : TransactionBuilder.build.run builder =
      .ok (Signed.unsigned escrow) { builder with consumed := true } := rfl
  have made : FeeBump.make bump.feeSource bump.fee bump.inner = .ok bump := rfl
  have built : Built ⟨.feeBump bump, []⟩ := .feeBump run [] made []
  have bounds : ∀ bounds ∈ escrow.timeBounds, bounds.Decodable := by
    intro bounds found
    cases found
    decide +kernel
  have conditions : ∀ operation ∈ escrow.operations, operation.Decodable := by
    have inYears : overdue.Every Moment.InUtcYears := show Moment.Readable _ by decide +kernel
    have condition : overdue.Decodable := ⟨by decide, inYears⟩
    simpa [escrow, Operation.Decodable, OperationBody.Decodable, OperationBody.EveryCondition] using
      condition
  obtain ⟨bytes, encoded⟩ : ∃ bytes,
      Envelope.codec.encode ⟨.feeBump bump, []⟩ = .ok bytes := ⟨_, rfl⟩
  obtain ⟨accepted, comesBack⟩ := decode_encode_iff_of_built built encoded
  obtain ⟨result, decoded⟩ := accepted.mpr ⟨bounds, conditions⟩
  obtain ⟨-, -, same⟩ := comesBack result decoded
  have inexact : ¬ TaggedTransaction.Every Moment.Exact (.feeBump bump) := by
    intro exact
    exact Moment.not_exact_halfSecond ((exact.1 _ rfl).2 _ rfl)
  refine ⟨bump, bytes, result, built, rfl, encoded, decoded, ?_⟩
  rwa [← Bool.not_eq_true, same]

/-! ### Bytes that are read -/

/-- A byte string that is an envelope is the encoding of what it is read to, and none that it goes
on from or that goes on from it is an envelope; no other is read to an envelope with this
encoding. -/
theorem encode_decode_unique
    {input : Bytes}
    {envelope : Envelope}
    (decoded : Envelope.codec.decode input = .ok envelope) :
    Envelope.codec.encode envelope = .ok input ∧
      (∀ front tail, input = front ++ tail → tail ≠ [] → ¬ Accepts front) ∧
      (∀ tail, tail ≠ [] → ¬ Accepts (input ++ tail)) ∧
      (∀ other otherEnvelope, Envelope.codec.decode other = .ok otherEnvelope →
        Envelope.codec.encode otherEnvelope = Envelope.codec.encode envelope → other = input) := by
  have encoded := Envelope.lawful_codec.encode_of_decode decoded
  refine ⟨encoded, ?_, ?_, ?_⟩
  · intro front tail split nonempty accepted
    subst split
    rcases accepted with ⟨short, decodedShort⟩
    exact nonempty (Envelope.lawful_codec.eq_nil_of_decode_append decodedShort decoded)
  · intro tail nonempty accepted
    rcases accepted with ⟨long, decodedLong⟩
    exact nonempty (Envelope.lawful_codec.eq_nil_of_decode_append decoded decodedLong)
  · intro other otherEnvelope decodedOther same
    rw [Envelope.lawful_codec.encode_of_decode decodedOther, encoded] at same
    exact Except.ok.inj same

/-- The bytes of a transaction with a lower time bound of zero, which is no bound. -/
def zeroBound : Bytes :=
  [0, 0, 0, 2, 0, 0, 0, 0] ++ List.replicate 32 7 ++ [0, 0, 0, 100, 0, 0, 0, 0, 0, 0, 0, 1] ++
    [0, 0, 0, 1, 0, 0, 0, 0, 0, 0, 0, 0, 0, 0, 0, 0, 101, 83, 241, 0] ++
    [0, 0, 0, 0, 0, 0, 0, 1, 0, 0, 0, 0, 0, 0, 0, 9, 0, 0, 0, 0, 0, 0, 0, 0]

/-- A bound of zero is written as it was read. -/
theorem encode_decode_unique_zeroBound :
    ∃ envelope, Envelope.codec.decode zeroBound = .ok envelope ∧
      Envelope.codec.encode envelope = .ok zeroBound ∧
        ∀ tail, tail ≠ [] → ¬ Accepts (zeroBound ++ tail) := by
  obtain ⟨envelope, decoded⟩ : ∃ envelope,
      Envelope.codec.decode zeroBound = .ok envelope := ⟨_, rfl⟩
  obtain ⟨encoded, -, longer, -⟩ := encode_decode_unique decoded
  exact ⟨envelope, decoded, encoded, longer⟩

end Envelope

end LedgerWire
