import LedgerWire.Proofs.Layout.Transaction

/-!
Contract: what is signed tells the network, the kind and the content. The hash of a passphrase
counts only as 32 bytes: that no two passphrases share one is not claimed.

Owns:
- `TaggedTransaction.signatureData` as the id of the network followed by the content;
- the separation of networks, kinds and contents by these bytes, of times as far as their Unix times
  differ.

Does not own: hashes and signatures of these bytes.
-/

namespace LedgerWire

open Wire Codec

namespace TaggedTransaction

theorem signatureData_eq_ok_iff {content : TaggedTransaction} {network : Network} {bytes : Bytes} :
    content.signatureData network = .ok bytes ↔
      ∃ back, codec.encode content = .ok back ∧ bytes = network.id.bytes ++ back := by
  have unpadded : padded network.id.bytes = network.id.bytes := by
    simp [padded, network.id.length_eq, paddingLength]
  simp only [signatureData, encode_eq_ok_iff, Codec.pair, Output.append_eq_done_iff,
    write_fixedBytes, unpadded]
  constructor
  · intro signed
    rcases signed with ⟨front, back, front_eq, written, rfl⟩
    cases front_eq
    exact ⟨back, written, rfl⟩
  · intro encoded
    rcases encoded with ⟨back, written, rfl⟩
    exact ⟨network.id.bytes, back, rfl, written, rfl⟩

theorem kindNumber_eq_of_sameBy {times : TimeRelation} {x y : TaggedTransaction}
    (same : x.sameBy times y = true) : x.kindNumber = y.kindNumber := by
  cases x <;> cases y <;> first | rfl | cases same

theorem alike_of_encode {x y : TaggedTransaction} {bytes : Bytes}
    (encodedX : codec.encode x = .ok bytes)
    (encodedY : codec.encode y = .ok bytes) : x.sameBy Moment.alike y = true :=
  lawful_codec.same_of_write (encode_eq_ok_iff.mp encodedX) (encode_eq_ok_iff.mp encodedY)

/-- If the same bytes are signed, the networks have the same id, and the contents are of the same
kind and the same in everything but signatures of their own and times, of which the Unix times are
the same. A transaction that a fee bump pays for is the same with its signatures. If the Unix times
stand for all times of the one content and for no other readings of their clocks, as they do for
whatever is read, the contents are the same exactly if these Unix times stand for the times of the
other one too. Nothing else is asked of either content: it may be built, read, or neither. -/
theorem alike_of_signatureData
    {x y : TaggedTransaction}
    {network network' : Network}
    {bytes : Bytes}
    (signedX : x.signatureData network = .ok bytes)
    (signedY : y.signatureData network' = .ok bytes) :
    network.id = network'.id ∧ x.kindNumber = y.kindNumber ∧ x.sameBy Moment.alike y = true ∧
      (y.Every Moment.Definite → (x.same y = true ↔ x.Every Moment.Exact)) := by
  obtain ⟨back, encodedX, rfl⟩ := signatureData_eq_ok_iff.mp signedX
  obtain ⟨back', encodedY, joined⟩ := signatureData_eq_ok_iff.mp signedY
  have lengths : network.id.bytes.length = network'.id.bytes.length := by
    rw [network.id.length_eq, network'.id.length_eq]
  obtain ⟨ids, rfl⟩ := List.append_inj joined lengths
  have alike := alike_of_encode encodedX encodedY
  refine ⟨?_, kindNumber_eq_of_sameBy alike, alike, same_iff_exact alike⟩
  cases idX : network.id
  cases idY : network'.id
  simp_all

/-- A transaction that is valid until a moment. -/
def validUntil (moment : Moment) (positive : 0 < moment.instant) : TaggedTransaction :=
  .transaction { Transaction.inflation with
    timeBounds := some (TimeBounds.validUntil moment positive) }

theorem every_validUntil {P : Moment → Prop} {moment : Moment} {positive : 0 < moment.instant} :
    (validUntil moment positive).Every P ↔ P moment := by
  simp [validUntil, Every, innermost, Transaction.Every, Transaction.inflation, TimeBounds.Every,
    TimeBounds.validUntil, Operation.Every, OperationBody.Every, OperationBody.EveryCondition]

/-- The last second of the year 2019 in UTC. -/
def yearEnd : Moment := ⟨1577836799, false, Zone.utc, by decide⟩

theorem positive_yearEnd : 0 < yearEnd.instant := by decide +kernel

/-- What is signed for a transaction that is valid until half a second before the year 2020 is also
signed for one that is valid until the second before, which is not the same. -/
theorem alike_of_signatureData_halfSecond :
    ∃ x y bytes, x = validUntil Moment.halfSecond Moment.positive_halfSecond ∧
      y = validUntil yearEnd positive_yearEnd ∧
        x.signatureData .testNetwork = .ok bytes ∧ y.signatureData .testNetwork = .ok bytes ∧
          x.sameBy Moment.alike y = true ∧ x.same y = false := by
  let x := validUntil Moment.halfSecond Moment.positive_halfSecond
  let y := validUntil yearEnd positive_yearEnd
  obtain ⟨back, encoded, encoded'⟩ : ∃ back, codec.encode x = .ok back ∧
      codec.encode y = .ok back :=
    ⟨_, rfl, rfl⟩
  have signed : x.signatureData .testNetwork = .ok (Network.testNetwork.id.bytes ++ back) :=
    signatureData_eq_ok_iff.mpr ⟨back, encoded, rfl⟩
  have signed' : y.signatureData .testNetwork = .ok (Network.testNetwork.id.bytes ++ back) :=
    signatureData_eq_ok_iff.mpr ⟨back, encoded', rfl⟩
  obtain ⟨-, -, alike, same⟩ := alike_of_signatureData signed signed'
  have definite : y.Every Moment.Definite := every_validUntil.mpr (Moment.InUtc.definite rfl)
  have inexact : ¬ x.Every Moment.Exact := every_validUntil.not.mpr Moment.not_exact_halfSecond
  refine ⟨x, y, _, rfl, rfl, signed, signed', alike, ?_⟩
  rwa [← Bool.not_eq_true, same definite]

end TaggedTransaction

end LedgerWire
