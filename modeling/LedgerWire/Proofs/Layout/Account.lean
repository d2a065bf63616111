import LedgerWire.Account.DataValue
import LedgerWire.Account.Flags
import LedgerWire.Account.Signer
import LedgerWire.Keys.MuxedAccount
import LedgerWire.Price
import LedgerWire.Proofs.Wire.Collection
import LedgerWire.Proofs.Wire.Union
import LedgerWire.Stroops

/-!
Contract: the layouts of keys, signatures, accounts, counts, prices, flags, data and signers are
faithful.

Owns:
- one faithfulness lemma for each of these layouts, and the widths that lists rely on.

Does not own: assets, times and operations.
-/

namespace LedgerWire

open Wire Codec

/-! ### Keys and signatures -/

theorem PublicKey.faithful_bareCodec : PublicKey.bareCodec.Faithful :=
  (faithful_fixedBytes 32).convert (fun _ => rfl) (fun _ => rfl)

theorem PublicKey.faithful_codec : PublicKey.codec.Faithful := by
  refine Faithful.union_one faithful_int32 ?_ PublicKey.faithful_bareCodec
  intro kind arm found
  split_ifs at found with isKind
  exact ⟨isKind, (Option.some.inj found).symm⟩

theorem Signature.faithful_codec : Signature.codec.Faithful := by
  apply (faithful_bytes (some 64)).refine
  · intro bytes signature _ _ accepted
    unfold Signature.ofBytes at accepted
    split_ifs at accepted
    cases accepted
    rfl
  · intro signature _ _
    simp [Signature.ofBytes, signature.length_le]

theorem SignatureHint.faithful_codec : SignatureHint.codec.Faithful :=
  (faithful_fixedBytes 4).convert (fun _ => rfl) (fun _ => rfl)

theorem DecoratedSignature.faithful_codec : DecoratedSignature.codec.Faithful :=
  (SignatureHint.faithful_codec.pair Signature.faithful_codec).convert (fun _ => rfl) (fun _ => rfl)

theorem DecoratedSignature.wide_codec : DecoratedSignature.codec.Wide :=
  (((wide_fixedBytes (n := 4) (by decide)).convert _ _).pair _).convert _ _

/-! ### Accounts -/

/-- A key with a number is both of them; the number is any that eight bytes hold. -/
theorem MuxedKey.faithful_codec : MuxedKey.codec.Faithful := by
  apply (faithful_uint64.pair PublicKey.faithful_bareCodec).refine
  · intro parts muxed _ _ accepted
    rcases parts with ⟨id, key⟩
    unfold MuxedKey.make at accepted
    split_ifs at accepted with inRange
    cases accepted
    simp only [Prod.mk.injEq, and_true]
    omega
  · intro muxed _ _
    have inRange : (0 : Int) ≤ muxed.id ∧ (muxed.id : Int) < 2 ^ 64 := by
      have below := muxed.id_lt
      omega
    rw [MuxedKey.make, dif_pos inRange]
    simp

theorem MuxedAccount.faithful_codec : MuxedAccount.codec.Faithful := by
  apply Faithful.union faithful_int32
  intro form arm found
  unfold MuxedAccount.forms at found
  split_ifs at found with isPlain isMuxed
  · obtain rfl := Option.some.inj found
    refine PublicKey.faithful_bareCodec.toArm ?_ fun _ _ _ => isPlain.symm
    intro account key
    cases account <;> simp [eq_comm]
  · obtain rfl := Option.some.inj found
    refine MuxedKey.faithful_codec.toArm ?_ fun _ _ _ => isMuxed.symm
    intro account key
    cases account <;> simp [eq_comm]

/-! ### Counts, prices, flags, data -/

theorem Stroops.faithful_codec : Stroops.codec.Faithful := by
  apply faithful_int64.refine
  · intro n stroops _ _ accepted
    unfold Stroops.ofInt at accepted
    split_ifs at accepted
    cases accepted
    rfl
  · intro stroops _ _
    simp [Stroops.ofInt, stroops.inRange]

theorem Stroops.write_feeCodec_eq_done_iff {fee : Stroops} {bytes : Bytes} :
    Stroops.feeCodec.write fee = .done bytes ↔ Codec.uint32.write fee.value = .done bytes := by
  simp only [Stroops.feeCodec]
  split_ifs with negative great
  · simp only [Codec.uint32, write_integer_eq_done_iff, Integer.Fits, Integer.least]
    simp [Output.failed, Output.done]
    omega
  · simp only [Codec.uint32, write_integer_eq_done_iff, Integer.Fits]
    simp [Output.failed, Output.done]
    omega
  · exact Iff.rfl

theorem Stroops.faithful_feeCodec : Stroops.feeCodec.Faithful := by
  apply faithful_of_yields
  · intro cursor fee after read
    simp only [Stroops.feeCodec, Outcome.run_bind_eq_ok, Reader.run_ofExcept_eq_ok] at read
    rcases read with ⟨n, _, read, accepted, rfl⟩
    rcases faithful_uint32.canonical read with ⟨front, split, written, -⟩
    unfold Stroops.ofInt at accepted
    split_ifs at accepted
    cases accepted
    exact ⟨front, split, Stroops.write_feeCodec_eq_done_iff.mpr written⟩
  · intro fee bytes written
    rw [Stroops.write_feeCodec_eq_done_iff] at written
    refine (faithful_uint32.yields written).bind_nil (Reader.yields_ofExcept ?_)
    simp [Stroops.ofInt, fee.inRange]

theorem Price.faithful_codec : Price.codec.Faithful := by
  apply (faithful_int32.pair faithful_int32).refine
  · intro parts price _ _ accepted
    rcases parts with ⟨numerator, denominator⟩
    unfold Price.make at accepted
    split_ifs at accepted
    cases accepted
    rfl
  · intro price _ _
    simp [Price.make, price.numeratorFits, price.denominatorFits]

theorem AccountFlags.faithful_codec : AccountFlags.codec.Faithful := by
  apply faithful_uint32.refine
  · intro n flags _ _ accepted
    unfold AccountFlags.ofBits at accepted
    split_ifs at accepted with inRange
    cases accepted
    exact Int.toNat_of_nonneg inRange.1
  · intro flags _ _
    have inRange : (0 : Int) ≤ flags.bits ∧ (flags.bits : Int) < 16 := by
      have below := flags.bits_lt
      omega
    simp [AccountFlags.ofBits, inRange]

theorem TrustLineFlags.faithful_codec : TrustLineFlags.codec.Faithful := by
  apply faithful_uint32.refine
  · intro n flags _ _ accepted
    unfold TrustLineFlags.ofBits at accepted
    split_ifs at accepted with inRange
    cases accepted
    exact Int.toNat_of_nonneg inRange.1
  · intro flags _ _
    have inRange : (0 : Int) ≤ flags.bits ∧ (flags.bits : Int) < 8 := by
      have below := flags.bits_lt
      omega
    simp [TrustLineFlags.ofBits, inRange]

theorem DataValue.faithful_codec : DataValue.codec.Faithful := by
  apply (faithful_bytes (some 64)).refine
  · intro bytes value _ _ accepted
    unfold DataValue.ofBytes at accepted
    split_ifs at accepted
    cases accepted
    rfl
  · intro value _ _
    simp [DataValue.ofBytes, value.length_le]

/-! ### Signers -/

theorem PreAuthTxHash.faithful_codec : PreAuthTxHash.codec.Faithful :=
  (faithful_fixedBytes 32).convert (fun _ => rfl) (fun _ => rfl)

theorem HashX.faithful_codec : HashX.codec.Faithful :=
  (faithful_fixedBytes 32).convert (fun _ => rfl) (fun _ => rfl)

theorem SignedPayload.faithful_codec : SignedPayload.codec.Faithful := by
  apply (PublicKey.faithful_bareCodec.pair (faithful_bytes (some 64))).refine
  · intro parts signed _ _ accepted
    rcases parts with ⟨key, payload⟩
    unfold SignedPayload.make at accepted
    split_ifs at accepted
    cases accepted
    rfl
  · intro signed _ _
    simp [SignedPayload.make, signed.length_le]

theorem SignerKey.faithful_codec : SignerKey.codec.Faithful := by
  apply Faithful.union faithful_int32
  intro kind arm found
  unfold SignerKey.kinds at found
  split_ifs at found with isKey isTransaction isPreimage isPayload
  · obtain rfl := Option.some.inj found
    refine PublicKey.faithful_bareCodec.toArm ?_ fun _ _ _ => isKey.symm
    intro signer key
    cases signer <;> simp [SignerKey.ed25519?, eq_comm]
  · obtain rfl := Option.some.inj found
    refine PreAuthTxHash.faithful_codec.toArm ?_ fun _ _ _ => isTransaction.symm
    intro signer key
    cases signer <;> simp [SignerKey.preAuthTx?, eq_comm]
  · obtain rfl := Option.some.inj found
    refine HashX.faithful_codec.toArm ?_ fun _ _ _ => isPreimage.symm
    intro signer key
    cases signer <;> simp [SignerKey.hashX?, eq_comm]
  · obtain rfl := Option.some.inj found
    refine SignedPayload.faithful_codec.toArm ?_ fun _ _ _ => isPayload.symm
    intro signer key
    cases signer <;> simp [SignerKey.signedPayload?, eq_comm]

theorem Signer.faithful_codec : Signer.codec.Faithful :=
  (SignerKey.faithful_codec.pair faithful_uint32).convert (fun _ => rfl) (fun _ => rfl)

end LedgerWire
