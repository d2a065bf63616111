import LedgerWire.Proofs.Layout.Result

/-!
Contract: results and byte strings. A byte string that is a result is the encoding of just that
result, and is neither the beginning nor the continuation of another one. A result need not come
back from its encoding: the checks that are made of it let parts through that the encoding drops,
and a payload of another shape than the one that is due.

Owns:
- `TransactionResult.decode_canonical`, which byte strings are results;
- `decode_encode_iff_carried`, which results come back from their encodings.

Does not own: the layouts of results.
-/

namespace LedgerWire

open Wire Codec

/-! ### Bytes that are read -/

/-- A byte string is read to a result exactly if it is the encoding of the result and the result
holds nothing but what is shown; none that it goes on from or that goes on from it is then a
result. -/
theorem TransactionResult.decode_canonical (input : Bytes) :
    (∀ result, codec.decode input = .ok result ↔ result.Carried ∧ codec.encode result = .ok input) ∧
      (codec.Accepts input →
        (∀ front tail, input = front ++ tail → tail ≠ [] → ¬ codec.Accepts front) ∧
          ∀ tail, tail ≠ [] → ¬ codec.Accepts (input ++ tail)) := by
  constructor
  · intro result
    exact recovers_codec.decode_eq_ok_iff
  · intro accepted
    rcases accepted with ⟨result, decoded⟩
    constructor
    · intro front tail split nonempty short
      subst split
      rcases short with ⟨shorter, decodedShort⟩
      exact nonempty (recovers_codec.eq_nil_of_decode_append decodedShort decoded)
    · intro tail nonempty long
      rcases long with ⟨longer, decodedLong⟩
      exact nonempty (recovers_codec.eq_nil_of_decode_append decoded decodedLong)

namespace TransactionResult

def account : PublicKey := ⟨⟨List.replicate 32 9, rfl⟩⟩

/-- Trades with a counterparty of each kind. -/
def trades : List ClaimAtom :=
  [⟨.v0, some account, some 1, none, by decide⟩,
    ⟨.orderBook, some account, some 2, none, by decide⟩,
    .ofPool ⟨⟨List.replicate 32 3, rfl⟩⟩].map fun counterparty =>
      ⟨counterparty, .native, ⟨11, by decide⟩, .native, ⟨12, by decide⟩⟩

/-- The result of a fee bump for a transaction that failed: a path payment went through three
trades, inflation paid out twice, and an operation was not signed for. -/
def failedBump : TransactionResult :=
  let path : PathPaymentSuccess := ⟨trades, ⟨account, .native, ⟨12, by decide⟩⟩⟩
  let payout : InflationPayout := ⟨account, ⟨40, by decide⟩⟩
  let operations : List OperationResult := [
    .applied ⟨.pathPaymentStrictSend, 0, some (.path path), by decide, by decide⟩,
    .applied ⟨.inflation, 0, some (.payouts [payout, payout]), by decide, by decide⟩,
    .refused .badAuth (by decide)]
  ⟨⟨300, by decide⟩, .feeBump false ⟨List.replicate 32 1, rfl⟩
    ⟨⟨150, by decide⟩, .carriedOut false operations⟩⟩

end TransactionResult

/-- The result of the fee bump is what its encoding is read to, and nothing that goes on from the
encoding is a result. -/
theorem TransactionResult.decode_canonical_failedBump :
    ∃ input, codec.encode failedBump = .ok input ∧ codec.decode input = .ok failedBump ∧
      ∀ tail, tail ≠ [] → ¬ codec.Accepts (input ++ tail) := by
  obtain ⟨input, encoded⟩ : ∃ input, codec.encode failedBump = .ok input := ⟨_, rfl⟩
  have carried : failedBump.Carried := by decide
  have decoded := ((decode_canonical input).1 failedBump).mpr ⟨carried, encoded⟩
  exact ⟨input, encoded, decoded, ((decode_canonical input).2 ⟨failedBump, decoded⟩).2⟩

/-! ### Results that come back -/

/-- Of the trades, payloads and results that have an encoding, just those come back from it that
hold nothing but what their kinds and codes say. -/
theorem decode_encode_iff_carried (bytes : Bytes) :
    (∀ atom, ClaimAtom.codec.encode atom = .ok bytes →
      (ClaimAtom.codec.decode bytes = .ok atom ↔ atom.Carried)) ∧
    (∀ success, PathPaymentSuccess.codec.encode success = .ok bytes →
      (PathPaymentSuccess.codec.decode bytes = .ok success ↔ success.Carried)) ∧
    (∀ success, ManageOfferSuccess.codec.encode success = .ok bytes →
      (ManageOfferSuccess.codec.decode bytes = .ok success ↔ success.Carried)) ∧
    (∀ result, AppliedResult.codec.encode result = .ok bytes →
      (AppliedResult.codec.decode bytes = .ok result ↔ result.Carried)) ∧
    (∀ result, OperationResult.codec.encode result = .ok bytes →
      (OperationResult.codec.decode bytes = .ok result ↔ result.Carried)) ∧
    (∀ result, TransactionResult.codec.encode result = .ok bytes →
      (TransactionResult.codec.decode bytes = .ok result ↔ result.Carried)) :=
  ⟨fun _ => ClaimAtom.recovers_codec.decode_iff_of_encode,
    fun _ => PathPaymentSuccess.recovers_codec.decode_iff_of_encode,
    fun _ => ManageOfferSuccess.recovers_codec.decode_iff_of_encode,
    fun _ => AppliedResult.recovers_codec.decode_iff_of_encode,
    fun _ => OperationResult.recovers_codec.decode_iff_of_encode,
    fun _ => TransactionResult.recovers_codec.decode_iff_of_encode⟩

/-- The result of a path payment that comes with an asset instead of its trades. -/
def AppliedResult.mismatched : AppliedResult :=
  ⟨.pathPaymentStrictSend, 0, some (.asset .native), by decide, by decide⟩

/-- A trade with a pool that names a seller as well. -/
def ClaimAtom.overstated : ClaimAtom :=
  ⟨⟨.liquidityPool, some TransactionResult.account, none,
    some ⟨⟨List.replicate 32 3, rfl⟩⟩, by decide⟩, .native, ⟨11, by decide⟩, .native,
      ⟨12, by decide⟩⟩

/-- A trade with a pool that names a seller is not what its encoding is read to, and the trade with
the pool alone is; nor does the result of a path payment come back that comes with an asset. -/
theorem decode_encode_iff_carried_overstated :
    (∃ bytes, ClaimAtom.codec.encode ClaimAtom.overstated = .ok bytes ∧
      ClaimAtom.codec.decode bytes ≠ .ok ClaimAtom.overstated ∧
      ∃ shown, ClaimAtom.codec.decode bytes = .ok shown ∧ shown.counterparty.seller = none) ∧
    ∃ bytes, AppliedResult.codec.encode AppliedResult.mismatched = .ok bytes ∧
      AppliedResult.codec.decode bytes ≠ .ok AppliedResult.mismatched := by
  have dropped : ¬ ClaimAtom.overstated.Carried := by decide
  have otherShape : ¬ AppliedResult.mismatched.Carried := by decide
  refine ⟨⟨_, rfl, ?_, _, rfl, rfl⟩, _, rfl, ?_⟩
  · intro decoded
    exact dropped (((decode_encode_iff_carried _).1 _ rfl).mp decoded)
  · intro decoded
    obtain ⟨-, -, -, applied, -⟩ := decode_encode_iff_carried
      ((AppliedResult.codec.write AppliedResult.mismatched).bytes)
    exact otherShape ((applied _ rfl).mp decoded)

end LedgerWire
