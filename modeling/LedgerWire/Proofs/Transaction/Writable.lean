import LedgerWire.Proofs.Operation.Writable
import LedgerWire.Proofs.Transaction.Building

/-!
Contract: which of the operations and transactions that builders give can be written. Fee and number
of operations of a built transaction always fit; its sequence number, and the parts that no builder
of operations checks, may not.

Owns:
- `Transaction.Built`, the transactions that builders give;
- the condition for built operations and transactions to be written.

Does not own: envelopes.
-/

namespace LedgerWire

open Wire Codec

namespace Transaction

theorem writable_codec_iff {tx : Transaction} :
    Transaction.codec.Writable tx ↔
      Integer.uint32.Fits tx.fee.value ∧ Integer.int64.Fits tx.sequence ∧
        tx.operations.length ≤ maxOperations ∧
        ∀ operation ∈ tx.operations, Operation.codec.Writable operation := by
  simp only [Transaction.codec, operationsCodec, reserved, writable_convert, writable_refine,
    writable_pair, writable_optional, writable_int64, writable_int32, Stroops.writable_feeCodec_iff,
    writable_array maxOperations (by decide), Nat.cast_le, id_eq]
  constructor
  · intro parts
    obtain ⟨-, fee, sequence, -, -, operations, -⟩ := parts
    exact ⟨fee, sequence, operations⟩
  · intro parts
    obtain ⟨fee, sequence, operations⟩ := parts
    exact ⟨tx.source.writable_codec, fee, sequence,
      fun bounds _ => bounds.writable_codec, tx.memo.writable_codec,
      operations, by decide⟩

/-- The transactions that builders give, whatever source, sequence number and base fee they are made
for, and however they are called. -/
def Built (tx : Signed Transaction) : Prop :=
  ∃ source sequence fee builder calls, TransactionBuilder.new source sequence fee = .ok builder ∧
    .built tx ∈ TransactionBuilder.construction.replies builder calls

theorem Built.fits {tx : Signed Transaction} (built : Built tx) :
    Integer.uint32.Fits tx.content.fee.value ∧ tx.content.operations.length ≤ maxOperations := by
  obtain ⟨_, _, _, _, _, started, member⟩ := built
  obtain ⟨_, _, -, -, rfl⟩ := TransactionBuilder.new_eq_ok_iff.mp started
  obtain ⟨entries, reply⟩ := TransactionBuilder.exists_firstReply_of_built _ _ _ member
  cases reply with
  | built paid added few fee total least greatest =>
    refine ⟨⟨?_, greatest⟩, few⟩
    exact Int.le_trans (Int.mul_nonneg (by decide) (Int.natCast_nonneg _)) least

theorem Built.writable_codec_iff {tx : Signed Transaction} (built : Built tx)
    (operations : ∀ operation ∈ tx.content.operations, operation.Built) :
    Transaction.codec.Writable tx.content ↔
      Integer.int64.Fits tx.content.sequence ∧
        ∀ operation ∈ tx.content.operations, operation.body.PartsFit := by
  obtain ⟨fee, few⟩ := built.fits
  have parts : (∀ operation ∈ tx.content.operations, Operation.codec.Writable operation) ↔
      ∀ operation ∈ tx.content.operations, operation.body.PartsFit := by
    refine forall₂_congr ?_
    intro operation member
    exact (operations operation member).writable_codec_iff
  rw [Transaction.writable_codec_iff, parts]
  exact (and_iff_right fee).trans (and_congr_right fun _ => and_iff_right few)

end Transaction

/-- What builders give can be encoded exactly if the parts fit that no builder checks: an operation
with those of its kind, and a transaction of such operations with its sequence number. -/
theorem encode_of_built_iff
    {operations : List Operation}
    (built : ∀ operation ∈ operations, operation.Built) :
    (∀ operation ∈ operations,
      ((∃ bytes, Operation.codec.encode operation = .ok bytes) ↔ operation.body.PartsFit)) ∧
    ∀ tx : Signed Transaction, Transaction.Built tx → tx.content.operations = operations →
      ((∃ bytes, Transaction.codec.encode tx.content = .ok bytes) ↔
        Integer.int64.Fits tx.content.sequence ∧
          ∀ operation ∈ operations, operation.body.PartsFit) := by
  constructor
  · intro operation member
    rw [exists_encode_iff]
    exact (built operation member).writable_codec_iff
  · intro tx txBuilt same
    subst same
    rw [exists_encode_iff]
    exact txBuilt.writable_codec_iff built

/-- An operation that bumps a sequence number to one that 64 bits do not hold is built and cannot be
encoded, and neither can a transaction with such a sequence number. -/
theorem encode_of_built_iff_outOfRange :
    let bump : Operation := ⟨none, .bumpSequence (2 ^ 63)⟩
    let tx : Transaction := { Transaction.inflation with sequence := 2 ^ 63 }
    (bump.Built ∧ ∀ bytes, Operation.codec.encode bump ≠ .ok bytes) ∧
      Transaction.Built (Signed.unsigned tx) ∧ ∀ bytes,
      Transaction.codec.encode tx ≠ .ok bytes := by
  intro bump tx
  have bumpBuilt : bump.Built :=
    ⟨.bumpSequence, [.enter (.fill .bumpTo (some (2 ^ 63))), .build], List.mem_cons_of_mem _
      (List.mem_singleton.mpr rfl)⟩
  have inflationBuilt : Operation.Built ⟨none, .inflation⟩ :=
    ⟨.inflation, [.build], List.mem_singleton.mpr rfl⟩
  have started : TransactionBuilder.new (.account tx.source) (2 ^ 63) (.integer 100) =
      .ok (TransactionBuilder.start tx.source (2 ^ 63) ⟨100, by decide⟩) := rfl
  have txBuilt : Transaction.Built (Signed.unsigned tx) :=
    ⟨_, _, _, _, [.enter (.addOperation ⟨none, .inflation⟩), .build], started,
      List.mem_cons_of_mem _ (List.mem_singleton.mpr rfl)⟩
  have tooGreat : ¬ Integer.int64.Fits (2 ^ 63) := by decide
  refine ⟨⟨bumpBuilt, ?_⟩, txBuilt, ?_⟩
  · intro bytes encoded
    have built : ∀ operation ∈ [bump], operation.Built := by
      intro operation member
      cases List.mem_singleton.mp member
      exact bumpBuilt
    have fits :=
      ((encode_of_built_iff built).1 bump (List.mem_singleton_self _)).mp ⟨bytes, encoded⟩
    exact tooGreat fits
  · intro bytes encoded
    have built : ∀ operation ∈ tx.operations, operation.Built := by
      intro operation member
      cases List.mem_singleton.mp member
      exact inflationBuilt
    have fits := ((encode_of_built_iff built).2 _ txBuilt rfl).mp ⟨bytes, encoded⟩
    exact tooGreat fits.1

end LedgerWire
