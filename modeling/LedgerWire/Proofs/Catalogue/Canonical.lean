import LedgerWire.Catalogue.WireType
import LedgerWire.Proofs.Bytes.Base64
import LedgerWire.Proofs.Layout.Result
import LedgerWire.Proofs.Layout.Transaction

/-!
Contract: how many forms a value has. For every type that has a wire form, the bytes that are read
as a value are the bytes that are written of it. The base 64 text is one more layer, and there it is
not so: a text that is read is the one that is written just if it is exact.

Owns:
- that bytes are canonical, for all types at once;
- which base 64 texts are.

Does not own: which values are read back.
-/

namespace LedgerWire

open Wire Codec

/-! ### Texts of bytes -/

theorem Wire.bytesOfBase64_eq_ok_iff {text : String} {bytes : Bytes} :
    bytesOfBase64 text = .ok bytes ↔ Base64.decode text = .ok bytes := by
  unfold bytesOfBase64
  cases Base64.decode text with
  | ok found => simp
  | error fault => simp

namespace WireType

/-! ### Bytes -/

/-- Bytes that are read as a value of any type are what is written of the value. -/
theorem encode_of_decode (type : WireType) {input : Bytes} {value : type.Carrier}
    (decoded : type.codec.decode input = .ok value) : type.codec.encode value = .ok input := by
  cases type with
  | publicKey => exact PublicKey.faithful_codec.encode_of_decode decoded
  | muxedKey => exact MuxedKey.faithful_codec.encode_of_decode decoded
  | muxedAccount => exact MuxedAccount.faithful_codec.encode_of_decode decoded
  | signature => exact Signature.faithful_codec.encode_of_decode decoded
  | signatureHint => exact SignatureHint.faithful_codec.encode_of_decode decoded
  | decoratedSignature => exact DecoratedSignature.faithful_codec.encode_of_decode decoded
  | signerKey => exact SignerKey.faithful_codec.encode_of_decode decoded
  | signer => exact Signer.faithful_codec.encode_of_decode decoded
  | asset => exact Asset.faithful_codec.encode_of_decode decoded
  | trustLineAsset => exact TrustLineAsset.faithful_codec.encode_of_decode decoded
  | changeTrustAsset => exact ChangeTrustAsset.faithful_codec.encode_of_decode decoded
  | liquidityPoolId => exact LiquidityPoolId.faithful_codec.encode_of_decode decoded
  | poolParameters => exact PoolParameters.faithful_codec.encode_of_decode decoded
  | claimableBalanceId => exact ClaimableBalanceId.faithful_codec.encode_of_decode decoded
  | claimPredicate => exact ClaimPredicate.lawful_codec.encode_of_decode decoded
  | claimant => exact Claimant.lawful_codec.encode_of_decode decoded
  | price => exact Price.faithful_codec.encode_of_decode decoded
  | memo => exact Memo.faithful_codec.encode_of_decode decoded
  | timeBounds => exact TimeBounds.lawful_codec.encode_of_decode decoded
  | dataValue => exact DataValue.faithful_codec.encode_of_decode decoded
  | ledgerKey => exact LedgerKey.faithful_codec.encode_of_decode decoded
  | operation => exact Operation.lawful_codec.encode_of_decode decoded
  | operationOf kind => exact (Operation.lawful_codecOf kind).encode_of_decode decoded
  | claimAtom => exact (ClaimAtom.recovers_codec.canonical.encode_of_decode decoded).2
  | receivedPayment => exact ReceivedPayment.faithful_codec.encode_of_decode decoded
  | pathPaymentSuccess =>
    exact (PathPaymentSuccess.recovers_codec.canonical.encode_of_decode decoded).2
  | offerEntry => exact OfferEntry.faithful_codec.encode_of_decode decoded
  | manageOfferSuccess =>
    exact (ManageOfferSuccess.recovers_codec.canonical.encode_of_decode decoded).2
  | inflationPayout => exact InflationPayout.faithful_codec.encode_of_decode decoded
  | appliedResult => exact (AppliedResult.recovers_codec.canonical.encode_of_decode decoded).2
  | operationResult => exact (OperationResult.recovers_codec.canonical.encode_of_decode decoded).2
  | innerTransactionResult =>
    exact (InnerTransactionResult.recovers_codec.canonical.encode_of_decode decoded).2
  | transactionResult =>
    exact (TransactionResult.recovers_codec.canonical.encode_of_decode decoded).2
  | transaction => exact (Signed.lawful_bareCodec Transaction.lawful_codec).encode_of_decode decoded
  | feeBump => exact (Signed.lawful_bareCodec FeeBump.lawful_codec).encode_of_decode decoded
  | envelope => exact Envelope.lawful_codec.encode_of_decode decoded

/-! ### Texts -/

/-- A text that is read is the text of the bytes that are written of the value, and these it stands
for. -/
theorem exists_bytes_of_decodeBase64 (type : WireType) {text : String} {value : type.Carrier}
    (decoded : type.codec.decodeBase64 text = .ok value) :
    ∃ bytes, bytesOfBase64 text = .ok bytes ∧ type.codec.decode bytes = .ok value ∧
      type.codec.encodeBase64 value = .ok (Base64.encode bytes) := by
  obtain ⟨bytes, ofText, ofBytes⟩ := Outcome.bind_eq_ok_iff.mp decoded
  refine ⟨bytes, ofText, ofBytes, ?_⟩
  unfold encodeBase64
  rw [type.encode_of_decode ofBytes]
  rfl

/-- A text from which a value of any type is read is the text that is written of the value just if
it is exact; and of the texts that stand for the same bytes exactly one is. -/
theorem encodeBase64_of_decodeBase64_iff
    (type : WireType)
    {text : String}
    {value : type.Carrier}
    (decoded : type.codec.decodeBase64 text = .ok value) :
    (type.codec.encodeBase64 value = .ok text ↔ Base64.Exact text) ∧
      ∃ written, type.codec.encodeBase64 value = .ok written ∧
      type.codec.decodeBase64 written = .ok value ∧
        ∀ other, bytesOfBase64 other = bytesOfBase64 text →
        (Base64.Exact other ↔ other = written) := by
  obtain ⟨bytes, ofText, ofBytes, encoded⟩ := type.exists_bytes_of_decodeBase64 decoded
  constructor
  · rw [encoded, Except.ok.injEq,
      Base64.exact_iff_eq_encode (bytesOfBase64_eq_ok_iff.mp ofText), eq_comm]
  · refine ⟨Base64.encode bytes, encoded, ?_, ?_⟩
    · apply Outcome.bind_eq_ok_iff.mpr
      exact ⟨bytes, bytesOfBase64_eq_ok_iff.mpr (Base64.decode_encode bytes), ofBytes⟩
    · intro other sameBytes
      exact Base64.exact_iff_eq_encode (bytesOfBase64_eq_ok_iff.mp (sameBytes.trans ofText))

/-- The lowest bit of the last digit is a spare one; the memo that is read is the one of
`AAAAAA==`. -/
theorem encodeBase64_of_decodeBase64_iff_spareBit :
    memo.codec.decodeBase64 "AAAAAB==" = .ok Memo.absent ∧
      memo.codec.encodeBase64 Memo.absent = .ok "AAAAAA==" ∧ ¬ Base64.Exact "AAAAAB==" := by
  have decoded : memo.codec.decodeBase64 "AAAAAB==" = .ok Memo.absent := by decide +kernel
  have encoded : memo.codec.encodeBase64 Memo.absent = .ok "AAAAAA==" := by decide +kernel
  refine ⟨decoded, encoded, ?_⟩
  rw [← (memo.encodeBase64_of_decodeBase64_iff decoded).1, encoded]
  decide

end WireType

end LedgerWire
