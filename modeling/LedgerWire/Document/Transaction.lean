import LedgerWire.Document.Operation
import LedgerWire.Transaction.Basic

/-!
Contract: the documents of transactions and fee bumps with their signatures, and of envelopes, which
tell by two flags which of the two they hold.

Owns:
- the documents of signed transactions, signed fee bumps and envelopes.

Does not own: anything of their parts.
-/

namespace LedgerWire

open Document

instance : Documented (Signed Transaction) where
  document signed := .record [
    part "source_account" signed.content.source,
    part "sequence" signed.content.sequence,
    part "fee" signed.content.fee,
    part "memo" signed.content.memo,
    part "time_bounds" signed.content.timeBounds,
    part "operations" signed.content.operations,
    part "signatures" signed.signatures]

instance : Documented (Signed FeeBump) where
  document signed := .record [
    part "fee_source" signed.content.feeSource,
    part "fee" signed.content.fee,
    part "inner" signed.content.inner,
    part "signatures" signed.signatures]

instance : Documented Envelope where
  document envelope := .record [
    ("envelope_type", .number envelope.content.kindNumber),
    part "is_transaction" envelope.transaction?.isSome,
    part "is_fee_bump" envelope.feeBump?.isSome,
    part "transaction" envelope.transaction?,
    part "fee_bump" envelope.feeBump?]

end LedgerWire
