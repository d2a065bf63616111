import LedgerWire.Document.Entity
import LedgerWire.Operation.Form

/-!
Contract: the documents of operations: the kind, the source, and every field of the kind under its
name. What is no longer sponsored is spelled by three parts, of which only those of one choice are
there.

Owns:
- the documents of the values of fields, and of operations.

Does not own: which fields a kind has.
-/

namespace LedgerWire

open Document

/-- The document of a value of a field. What is no longer sponsored has parts instead. -/
def Field.toDocument : (field : Field) → field.Value → Document
  | .source, value | .destination, value | .holder, value => document value
  | .newAccount, value | .inflationDestination, value | .trustor, value
  | .sponsored, value => document value
  | .startingBalance, value | .amount, value | .sendMax, value | .sendAmount, value
  | .destinationAmount, value | .destinationMin, value | .buyAmount, value | .limit, value
  | .maxAmountA, value | .maxAmountB, value | .minAmountA, value
  | .minAmountB, value => document value
  | .asset, value | .sendAsset, value | .destinationAsset, value | .selling, value
  | .buying, value => document value
  | .path, value => document value
  | .price, value | .minPrice, value | .maxPrice, value => document value
  | .offerId, value | .bumpTo, value | .masterWeight, value | .lowThreshold, value
  | .mediumThreshold, value | .highThreshold, value => document value
  | .clearAccountFlags, value | .setAccountFlags, value => document value
  | .authorize, value | .clearLineFlags, value | .setLineFlags, value => document value
  | .homeDomain, value | .dataName, value => document value
  | .signer, value => document value
  | .line, value => document value
  | .assetCode, value => document value
  | .dataValue, value => document value
  | .claimants, value => document value
  | .balanceId, value => document value
  | .revokeTarget, _ => .absent
  | .poolId, value => document value

/-- The parts by which a field is shown. -/
def Field.parts (field : Field) (value : Option field.Value) : List (String × Document) :=
  match field, value with
  | .revokeTarget, target =>
    [part "ledger_key" (target.bind RevokeTarget.ledgerKey?),
      part "signer_account" ((target.bind RevokeTarget.signer?).map (·.1)),
      part "signer_key" ((target.bind RevokeTarget.signer?).map (·.2))]
  | field, value => [part field.name (value.map field.toDocument)]

instance : Documented Operation where
  document operation :=
    .record (part "type" operation.kind.name ::
      (Field.source :: operation.kind.fields).flatMap fun field =>
        field.parts (operation.form field))

end LedgerWire
