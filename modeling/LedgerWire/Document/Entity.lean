import LedgerWire.Account.DataValue
import LedgerWire.Account.Flags
import LedgerWire.Account.Signer
import LedgerWire.Amount
import LedgerWire.Document
import LedgerWire.Keys.MuxedAccount
import LedgerWire.LedgerKey
import LedgerWire.Memo
import LedgerWire.Network
import LedgerWire.Price
import LedgerWire.TimeBounds

/-!
Contract: the documents of the values that operations and transactions are made of. Keys and
accounts are their addresses; hashes and other byte strings are hexadecimal; a value of several
kinds names its kind.

Owns:
- the documents of keys, signatures, assets, amounts, times, conditions, memos and ledger keys.

Does not own: the documents of operations, transactions and results.
-/

namespace LedgerWire

open Document

/-! ### Keys and signatures -/

instance : Documented PublicKey := ⟨fun key => .text key.accountId⟩

instance : Documented MuxedKey := ⟨fun key => .text key.address⟩

instance : Documented MuxedAccount := ⟨fun account => .text account.address⟩

instance : Documented Network := ⟨fun network => .text network.passphrase⟩

instance : Documented Signature := ⟨fun signature => ofBytes signature.bytes⟩

instance : Documented SignatureHint := ⟨fun hint => ofBytes hint.bytes⟩

instance : Documented DecoratedSignature where
  document signature := .record [
    part "hint" signature.hint.bytes.toHex,
    part "signature" signature.signature.bytes.toHex]

instance : Documented PreAuthTxHash := ⟨fun key => ofBytes key.bytes⟩

instance : Documented HashX := ⟨fun key => ofBytes key.bytes⟩

instance : Documented SignedPayload where
  document signed := .record [part "key" signed.key, part "payload" signed.payload.toHex]

instance : Documented SignerKey where
  document key := .record [
    ("type", .number key.kindNumber),
    part "ed25519" key.ed25519?,
    part "pre_auth_tx" key.preAuthTx?,
    part "hash_x" key.hashX?,
    part "signed_payload" key.signedPayload?]

instance : Documented Signer where
  document signer := .record [part "key" signer.key, part "weight" signer.weight]

/-! ### Amounts and assets -/

instance : Documented Stroops := ⟨fun stroops => document stroops.value⟩

instance : Documented Amount := ⟨fun amount => .text amount.toText⟩

instance : Documented Price := ⟨fun price => .text price.toText⟩

instance : Documented AssetCode := ⟨fun code => .text code.text⟩

instance : Documented CreditAsset where
  document asset := .record [
    ("type", .number asset.code.formNumber),
    part "code" asset.code,
    part "issuer" asset.issuer]

instance : Documented Asset where
  document
    | .native => .text "native"
    | .credit asset => document asset

instance : Documented LiquidityPoolId := ⟨fun id => ofBytes id.bytes⟩

instance : Documented PoolParameters where
  document pool := .record [part "a" pool.assetA, part "b" pool.assetB, part "fee" pool.fee]

instance {Pool : Type} [Documented Pool] : Documented (AssetOrPool Pool) where
  document
    | .asset asset => document asset
    | .pool pool => .record [part "pool" pool]

/-! ### Times and conditions -/

instance : Documented Moment where
  document moment := .record [part "unix" moment.unix, part "iso" moment.isoText]

instance : Documented TimeBounds where
  document bounds := .record [part "lower" bounds.lower, part "upper" bounds.upper]

/-- The document of a condition: its kind, and its branches or its time. -/
def ClaimPredicate.toDocument (predicate : ClaimPredicate) : Document :=
  .record [
    part "kind" predicate.kind.name,
    ("value",
      match predicate with
      | .unconditional => .absent
      | .and left right | .or left right => .list [left.toDocument, right.toDocument]
      | .not inner => inner.toDocument
      | .beforeAbsolute deadline => document deadline
      | .beforeRelative span => document span.seconds)]

instance : Documented ClaimPredicate := ⟨ClaimPredicate.toDocument⟩

instance : Documented Claimant where
  document claimant := .record [
    part "destination" claimant.destination,
    part "predicate" claimant.predicate]

instance : Documented ClaimableBalanceId := ⟨fun id => ofBytes id.bytes⟩

/-! ### Accounts and entries -/

instance : Documented AccountFlags := ⟨fun flags => .number flags.bits⟩

instance : Documented TrustLineFlags := ⟨fun flags => .number flags.bits⟩

instance : Documented DataValue := ⟨fun value => ofBytes value.bytes⟩

instance : Documented Memo where
  document memo := .record [
    part "type" memo.kind.name,
    part "is_none" (memo.kind == .absent),
    part "id" memo.id?,
    part "text" memo.text?,
    part "hash" memo.hash?,
    part "return" memo.returnHash?]

/-- The parts of a ledger key that only some kinds have. -/
def LedgerKey.ownParts : LedgerKey → List (String × Document)
  | .account _ => []
  | .trustLine _ asset => [part "asset" asset]
  | .offer _ offerId => [part "offer_id" offerId]
  | .data _ name => [part "data_name" name]
  | .claimableBalance id => [part "balance_id" id]
  | .liquidityPool id => [part "pool_id" id]

instance : Documented LedgerKey where
  document key :=
    let ownNames := ["asset", "offer_id", "data_name", "balance_id", "pool_id"]
    .record ([part "kind" key.kind.name, part "account" key.account?] ++
      ownNames.map fun name => part name (key.ownParts.lookup name))

end LedgerWire
