import LedgerWire.Document.Entity
import LedgerWire.Result.Transaction

/-!
Contract: the documents of results. Codes are named; what a caller most often asks, whether
something succeeded or failed, stands beside the code.

Owns:
- the documents of trades, offers, and the results of operations and transactions.

Does not own: what the codes mean.
-/

namespace LedgerWire

open Document

instance : Documented ClaimAtom where
  document atom := .record [
    part "kind" atom.counterparty.kind.name,
    part "seller" atom.counterparty.seller,
    part "offer_id" atom.counterparty.offerId,
    part "pool_id" atom.counterparty.pool,
    part "asset_sold" atom.assetSold,
    part "amount_sold" atom.amountSold,
    part "asset_bought" atom.assetBought,
    part "amount_bought" atom.amountBought]

instance : Documented ReceivedPayment where
  document received := .record [
    part "destination" received.destination,
    part "asset" received.asset,
    part "amount" received.amount]

instance : Documented PathPaymentSuccess where
  document success := .record [part "offers" success.trades, part "last" success.received]

instance : Documented OfferEntry where
  document entry := .record [
    part "seller" entry.seller,
    part "offer_id" entry.offerId,
    part "selling" entry.terms.selling,
    part "buying" entry.terms.buying,
    part "amount" entry.terms.amount,
    part "price" entry.terms.price,
    part "flags" entry.flags]

instance : Documented ManageOfferSuccess where
  document success := .record [
    part "offers_claimed" success.trades,
    part "effect" success.effect.kind.name,
    part "offer" success.effect.entry?]

instance : Documented InflationPayout where
  document payout := .record [
    part "destination" payout.destination,
    part "amount" payout.amount]

instance : Documented Payload where
  document
    | .path success => document success
    | .asset missing => document missing
    | .offer success => document success
    | .balance merged => document merged
    | .payouts items => document items
    | .claimable id => document id

instance : Documented AppliedResult where
  document result := .record [
    part "type" result.kind.name,
    part "code" result.code,
    part "result_code" result.codeName,
    part "success" result.succeeded,
    part "payload" result.payload]

instance : Documented OperationResult where
  document result := .record [
    part "code" result.code.name,
    part "is_inner" result.inner?.isSome,
    part "success" result.succeeded,
    part "inner" result.inner?]

/-- The parts that the results of all transactions have. -/
def resultParts
    (feeCharged : Stroops)
    (code : TransactionResultCode)
    (results : Option (List OperationResult)) : List (String × Document) := [
  part "fee_charged" feeCharged,
  part "code" code.name,
  part "success" (code == .success),
  part "failed" (code == .failed),
  part "results" results]

instance : Documented InnerTransactionResult where
  document result :=
    .record (resultParts result.feeCharged result.outcome.code result.outcome.results?)

instance : Documented TransactionResult where
  document result :=
    let bump := result.outcome.feeBump?
    .record (resultParts result.feeCharged result.code (result.outcome.own?.bind (·.results?)) ++ [
      part "fee_bump" [
        bump.isSome, result.code == .feeBumpInnerSuccess, result.code == .feeBumpInnerFailed],
      part "transaction_hash" (bump.map (·.1)),
      part "inner_result" (bump.map (·.2)),
      ("operation_results", .number result.operationResults.length)])

end LedgerWire
