import LedgerWire.Document.Result
import LedgerWire.Document.Transaction

/-!
Contract: the types whose values have a wire form, as values themselves, so that what holds of all
of them can be said once, and so that tools can name a type.

Owns:
- `WireType`, the values of each type, and its name;
- for each type the wire form, the sameness of values, the description, and the document of a value.

Does not own: any of these by itself.
-/

namespace LedgerWire

open Wire

/-- The types whose values have a wire form. -/
inductive WireType where
  | publicKey
  | muxedKey
  | muxedAccount
  | signature
  | signatureHint
  | decoratedSignature
  | signerKey
  | signer
  | asset
  | trustLineAsset
  | changeTrustAsset
  | liquidityPoolId
  | poolParameters
  | claimableBalanceId
  | claimPredicate
  | claimant
  | price
  | memo
  | timeBounds
  | dataValue
  | ledgerKey
  | operation
  | operationOf (kind : OperationKind)
  | claimAtom
  | receivedPayment
  | pathPaymentSuccess
  | offerEntry
  | manageOfferSuccess
  | inflationPayout
  | appliedResult
  | operationResult
  | innerTransactionResult
  | transactionResult
  | transaction
  | feeBump
  | envelope
  deriving DecidableEq

namespace WireType

/-- The values of a type. A transaction or a fee bump is one with its signatures, which its wire
form leaves out. -/
abbrev Carrier : WireType → Type
  | publicKey => PublicKey
  | muxedKey => MuxedKey
  | muxedAccount => MuxedAccount
  | signature => Signature
  | signatureHint => SignatureHint
  | decoratedSignature => DecoratedSignature
  | signerKey => SignerKey
  | signer => Signer
  | asset => Asset
  | trustLineAsset => TrustLineAsset
  | changeTrustAsset => ChangeTrustAsset
  | liquidityPoolId => LiquidityPoolId
  | poolParameters => PoolParameters
  | claimableBalanceId => ClaimableBalanceId
  | claimPredicate => ClaimPredicate
  | claimant => Claimant
  | price => Price
  | memo => Memo
  | timeBounds => TimeBounds
  | dataValue => DataValue
  | ledgerKey => LedgerKey
  | operation | operationOf _ => Operation
  | claimAtom => ClaimAtom
  | receivedPayment => ReceivedPayment
  | pathPaymentSuccess => PathPaymentSuccess
  | offerEntry => OfferEntry
  | manageOfferSuccess => ManageOfferSuccess
  | inflationPayout => InflationPayout
  | appliedResult => AppliedResult
  | operationResult => OperationResult
  | innerTransactionResult => InnerTransactionResult
  | transactionResult => TransactionResult
  | transaction => Signed Transaction
  | feeBump => Signed FeeBump
  | envelope => Envelope

def all : List WireType := [
  publicKey, muxedKey, muxedAccount, signature, signatureHint, decoratedSignature,
  signerKey, signer, asset, trustLineAsset, changeTrustAsset, liquidityPoolId, poolParameters,
  claimableBalanceId, claimPredicate, claimant, price, memo, timeBounds, dataValue, ledgerKey,
  operation, claimAtom, receivedPayment, pathPaymentSuccess, offerEntry, manageOfferSuccess,
  inflationPayout, appliedResult, operationResult, innerTransactionResult, transactionResult,
  transaction, feeBump, envelope] ++
  OperationKind.all.map operationOf

def name : WireType → String
  | publicKey => "PublicKey"
  | muxedKey => "MuxedKey"
  | muxedAccount => "MuxedAccount"
  | signature => "Signature"
  | signatureHint => "SignatureHint"
  | decoratedSignature => "DecoratedSignature"
  | signerKey => "SignerKey"
  | signer => "Signer"
  | asset => "Asset"
  | trustLineAsset => "TrustLineAsset"
  | changeTrustAsset => "ChangeTrustAsset"
  | liquidityPoolId => "LiquidityPoolId"
  | poolParameters => "PoolParameters"
  | claimableBalanceId => "ClaimableBalanceId"
  | claimPredicate => "ClaimPredicate"
  | claimant => "Claimant"
  | price => "Price"
  | memo => "Memo"
  | timeBounds => "TimeBounds"
  | dataValue => "DataValue"
  | ledgerKey => "LedgerKey"
  | operation => "Operation"
  | operationOf kind => kind.operationName
  | claimAtom => "ClaimAtom"
  | receivedPayment => "ReceivedPayment"
  | pathPaymentSuccess => "PathPaymentSuccess"
  | offerEntry => "OfferEntry"
  | manageOfferSuccess => "ManageOfferSuccess"
  | inflationPayout => "InflationPayout"
  | appliedResult => "AppliedResult"
  | operationResult => "OperationResult"
  | innerTransactionResult => "InnerTransactionResult"
  | transactionResult => "TransactionResult"
  | transaction => "Transaction"
  | feeBump => "FeeBump"
  | envelope => "Envelope"

def codec : (type : WireType) → Codec type.Carrier
  | publicKey => PublicKey.codec
  | muxedKey => MuxedKey.codec
  | muxedAccount => MuxedAccount.codec
  | signature => Signature.codec
  | signatureHint => SignatureHint.codec
  | decoratedSignature => DecoratedSignature.codec
  | signerKey => SignerKey.codec
  | signer => Signer.codec
  | asset => Asset.codec
  | trustLineAsset => TrustLineAsset.codec
  | changeTrustAsset => ChangeTrustAsset.codec
  | liquidityPoolId => LiquidityPoolId.codec
  | poolParameters => PoolParameters.codec
  | claimableBalanceId => ClaimableBalanceId.codec
  | claimPredicate => ClaimPredicate.codec
  | claimant => Claimant.codec
  | price => Price.codec
  | memo => Memo.codec
  | timeBounds => TimeBounds.codec
  | dataValue => DataValue.codec
  | ledgerKey => LedgerKey.codec
  | operation => Operation.codec
  | operationOf kind => Operation.codecOf kind
  | claimAtom => ClaimAtom.codec
  | receivedPayment => ReceivedPayment.codec
  | pathPaymentSuccess => PathPaymentSuccess.codec
  | offerEntry => OfferEntry.codec
  | manageOfferSuccess => ManageOfferSuccess.codec
  | inflationPayout => InflationPayout.codec
  | appliedResult => AppliedResult.codec
  | operationResult => OperationResult.codec
  | innerTransactionResult => InnerTransactionResult.codec
  | transactionResult => TransactionResult.codec
  | transaction => Signed.bareCodec Transaction.codec
  | feeBump => Signed.bareCodec FeeBump.codec
  | envelope => Envelope.codec

instance (type : WireType) : DecidableEq type.Carrier := by cases type <;> infer_instance

instance (type : WireType) : Documented type.Carrier := by cases type <;> infer_instance

/-- Whether two values of a type are the same. -/
def same : (type : WireType) → type.Carrier → type.Carrier → Bool
  | claimPredicate => ClaimPredicate.same
  | claimant => Claimant.same
  | timeBounds => TimeBounds.same
  | operation | operationOf _ => Operation.same
  | transaction => Transaction.sameSigned
  | feeBump => FeeBump.sameSigned
  | envelope => Envelope.same
  | _ => fun a b => a == b

def describe? : (type : WireType) → Option (type.Carrier → String)
  | publicKey => some PublicKey.describe
  | muxedKey => some MuxedKey.describe
  | muxedAccount => some MuxedAccount.describe
  | signature => some Signature.describe
  | signatureHint => some SignatureHint.describe
  | decoratedSignature => some DecoratedSignature.describe
  | signerKey => some SignerKey.describe
  | signer => some Signer.describe
  | asset => some Asset.describe
  | trustLineAsset => some TrustLineAsset.describe
  | changeTrustAsset => some ChangeTrustAsset.describe
  | liquidityPoolId => some LiquidityPoolId.describe
  | poolParameters => some PoolParameters.describe
  | claimableBalanceId => some ClaimableBalanceId.describe
  | claimPredicate => some ClaimPredicate.describe
  | claimant => some Claimant.describe
  | price => some Price.describe
  | memo => some Memo.describe
  | timeBounds => some TimeBounds.describe
  | dataValue => some DataValue.describe
  | ledgerKey => some LedgerKey.describe
  | transaction => some Transaction.describe
  | feeBump => some FeeBump.describe
  | envelope => some Envelope.describe
  | _ => none

end WireType

end LedgerWire
