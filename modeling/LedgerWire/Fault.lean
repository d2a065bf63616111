import LedgerWire.Text.Quoted

/-!
Contract: the one account of failure in this library. A documented failure is a `Fault`: its kind,
a code callers can branch on, a message, details in the order they were given, and what the failure
beneath it said. A `Failure` is such a fault or one of the few slips of a caller that carry no code.

Owns:
- the kinds of fault, their codes, code names and default messages;
- the one-line report of a fault;
- `Failure`, the error type of every computation here.

Does not own: when a fault arises, or the message particular to one rule.
-/

namespace LedgerWire

/-- The kinds of fault. Codes 100 to 199 are about keys, 200 to 299 about amounts and prices, 300 to
399 about the other values, 400 to 499 about operations and transactions, from 500 on about
encodings. -/
inductive FaultKind where
  | unknown
  | invalidStrKey
  | invalidStrKeyVersion
  | invalidStrKeyChecksum
  | invalidSeed
  | invalidPublicKey
  | invalidNetworkId
  | invalidSignature
  | invalidSignatureHint
  | invalidPreAuthTx
  | invalidHashX
  | invalidStroops
  | negativeStroops
  | invalidAmountScale
  | unparsedAmount
  | unparsedPrice
  | invalidAssetCode
  | invalidMemoText
  | invalidMemoHash
  | invalidMemoReturn
  | invalidTimeBounds
  | invalidAccountFlags
  | invalidTrustLineFlags
  | invalidDataValue
  | invalidClaimableBalanceId
  | invalidLiquidityPoolId
  | homeDomainTooLong
  | invalidOperation
  | tooManyOperations
  | missingOperations
  | feeTooLow
  | feeOverflow
  | builderConsumed
  | xdr
  | claimPredicate
  | base64
  deriving DecidableEq, Repr

namespace FaultKind

def all : List FaultKind := [
  .unknown, .invalidStrKey, .invalidStrKeyVersion, .invalidStrKeyChecksum, .invalidSeed,
  .invalidPublicKey, .invalidNetworkId, .invalidSignature, .invalidSignatureHint,
  .invalidPreAuthTx, .invalidHashX, .invalidStroops, .negativeStroops, .invalidAmountScale,
  .unparsedAmount, .unparsedPrice, .invalidAssetCode, .invalidMemoText, .invalidMemoHash,
  .invalidMemoReturn, .invalidTimeBounds, .invalidAccountFlags, .invalidTrustLineFlags,
  .invalidDataValue, .invalidClaimableBalanceId, .invalidLiquidityPoolId, .homeDomainTooLong,
  .invalidOperation, .tooManyOperations, .missingOperations, .feeTooLow, .feeOverflow,
  .builderConsumed, .xdr, .claimPredicate, .base64]

/-- The code callers branch on. -/
def code : FaultKind → Nat
  | .unknown => 1
  | .invalidStrKey => 100
  | .invalidStrKeyVersion => 101
  | .invalidStrKeyChecksum => 102
  | .invalidSeed => 103
  | .invalidPublicKey => 104
  | .invalidNetworkId => 105
  | .invalidSignature => 106
  | .invalidSignatureHint => 107
  | .invalidPreAuthTx => 108
  | .invalidHashX => 109
  | .invalidStroops => 200
  | .negativeStroops => 201
  | .invalidAmountScale => 202
  | .unparsedAmount => 203
  | .unparsedPrice => 204
  | .invalidAssetCode => 300
  | .invalidMemoText => 301
  | .invalidMemoHash => 302
  | .invalidMemoReturn => 303
  | .invalidTimeBounds => 304
  | .invalidAccountFlags => 305
  | .invalidTrustLineFlags => 306
  | .invalidDataValue => 307
  | .invalidClaimableBalanceId => 308
  | .invalidLiquidityPoolId => 309
  | .homeDomainTooLong => 310
  | .invalidOperation => 400
  | .tooManyOperations => 401
  | .missingOperations => 402
  | .feeTooLow => 403
  | .feeOverflow => 404
  | .builderConsumed => 405
  | .xdr => 500
  | .claimPredicate => 501
  | .base64 => 502

/-- The name of the code, which opens a report. -/
def codeName : FaultKind → String
  | .unknown => "UNKNOWN"
  | .invalidStrKey => "INVALID_STR_KEY"
  | .invalidStrKeyVersion => "INVALID_STR_KEY_VERSION_BYTE"
  | .invalidStrKeyChecksum => "INVALID_STR_KEY_CHECKSUM"
  | .invalidSeed => "INVALID_SEED"
  | .invalidPublicKey => "INVALID_PUBLIC_KEY"
  | .invalidNetworkId => "INVALID_NETWORK_ID"
  | .invalidSignature => "INVALID_SIGNATURE"
  | .invalidSignatureHint => "INVALID_SIGNATURE_HINT"
  | .invalidPreAuthTx => "INVALID_PRE_AUTH_TX"
  | .invalidHashX => "INVALID_HASH_X"
  | .invalidStroops => "INVALID_STROOPS_AMOUNT"
  | .negativeStroops => "NEGATIVE_STROOPS"
  | .invalidAmountScale => "INVALID_AMOUNT_SCALE"
  | .unparsedAmount => "PARSE_AMOUNT_ERROR"
  | .unparsedPrice => "PARSE_PRICE_ERROR"
  | .invalidAssetCode => "INVALID_ASSET_CODE"
  | .invalidMemoText => "INVALID_MEMO_TEXT"
  | .invalidMemoHash => "INVALID_MEMO_HASH"
  | .invalidMemoReturn => "INVALID_MEMO_RETURN"
  | .invalidTimeBounds => "INVALID_TIME_BOUNDS"
  | .invalidAccountFlags => "INVALID_ACCOUNT_FLAGS"
  | .invalidTrustLineFlags => "INVALID_TRUST_LINE_FLAGS"
  | .invalidDataValue => "INVALID_DATA_VALUE"
  | .invalidClaimableBalanceId => "INVALID_CLAIMABLE_BALANCE_ID_LENGTH"
  | .invalidLiquidityPoolId => "INVALID_LIQUIDITY_POOL_ID_LENGTH"
  | .homeDomainTooLong => "HOME_DOMAIN_TOO_LONG"
  | .invalidOperation => "INVALID_OPERATION"
  | .tooManyOperations => "TOO_MANY_OPERATIONS"
  | .missingOperations => "MISSING_OPERATIONS"
  | .feeTooLow => "TRANSACTION_FEE_TOO_LOW"
  | .feeOverflow => "TRANSACTION_FEE_OVERFLOW"
  | .builderConsumed => "BUILDER_CONSUMED"
  | .xdr => "XDR_ERROR"
  | .claimPredicate => "XDR_CLAIM_PREDICATE_ERROR"
  | .base64 => "BASE64_DECODE_ERROR"

def defaultMessage : FaultKind → String
  | .unknown => "unknown error"
  | .invalidStrKey => "invalid strkey"
  | .invalidStrKeyVersion => "invalid strkey version byte"
  | .invalidStrKeyChecksum => "invalid strkey checksum"
  | .invalidSeed => "invalid secret seed"
  | .invalidPublicKey => "invalid public key"
  | .invalidNetworkId => "invalid network id"
  | .invalidSignature => "invalid signature"
  | .invalidSignatureHint => "invalid signature hint"
  | .invalidPreAuthTx => "invalid pre auth tx hash"
  | .invalidHashX => "invalid hash(x)"
  | .invalidStroops => "invalid stroops amount"
  | .negativeStroops => "stroops amount is negative"
  | .invalidAmountScale => "amount has more than 7 decimal places"
  | .unparsedAmount => "error parsing amount"
  | .unparsedPrice => "error parsing price"
  | .invalidAssetCode => "invalid asset code"
  | .invalidMemoText => "memo text too long"
  | .invalidMemoHash => "memo hash too long"
  | .invalidMemoReturn => "memo return hash too long"
  | .invalidTimeBounds => "invalid time bounds"
  | .invalidAccountFlags => "invalid account flags"
  | .invalidTrustLineFlags => "invalid trust line flags"
  | .invalidDataValue => "data value longer than 64 bytes"
  | .invalidClaimableBalanceId => "claimable balance id must be 32 bytes"
  | .invalidLiquidityPoolId => "liquidity pool id must be 32 bytes"
  | .homeDomainTooLong => "home domain longer than 32 bytes"
  | .invalidOperation => "invalid operation"
  | .tooManyOperations => "transaction has more than 100 operations"
  | .missingOperations => "transaction has no operations"
  | .feeTooLow => "transaction fee too low"
  | .feeOverflow => "transaction fee overflow"
  | .builderConsumed => "builder was already consumed by build()"
  | .xdr => "xdr error"
  | .claimPredicate => "invalid claim predicate in xdr"
  | .base64 => "base64 decode error"

end FaultKind

inductive Detail where
  | text (value : String)
  | number (value : Int)
  | flag (value : Bool)
  | absent
  /-- A value of another kind, as it is shown. -/
  | other (shown : String)
  deriving DecidableEq, Repr, Inhabited

def Detail.show : Detail → String
  | .text value => Text.quoted value
  | .number value => toString value
  | .flag value => if value then "True" else "False"
  | .absent => "None"
  | .other shown => shown

def Detail.ofList (items : List Detail) : Detail :=
  .other ("[" ++ String.intercalate ", " (items.map Detail.show) ++ "]")

/-- A documented failure. -/
structure Fault where
  kind : FaultKind
  code : FaultKind
  message : String
  details : List (String × Detail)
  cause : Option String
  deriving DecidableEq, Repr

namespace Fault

/-- A fault with the code of its kind. An empty message stands for the default of the kind. -/
def of
    (kind : FaultKind)
    (message : String)
    (details : List (String × Detail))
    (cause : Option String) : Fault where
  kind := kind
  code := kind
  message := if message.isEmpty then kind.defaultMessage else message
  details := details
  cause := cause

/-- Names a further detail. A name given before keeps its place and takes the new value. -/
def withDetail (fault : Fault) (name : String) (value : Detail) : Fault :=
  if fault.details.any (·.1 == name) then
    { fault with
      details := fault.details.map fun entry => if entry.1 == name then (name, value) else entry }
  else
    { fault with details := fault.details ++ [(name, value)] }

/-- The details as one text: names and values, in order, between braces. -/
def showDetails (details : List (String × Detail)) : String :=
  "\x7b" ++ String.intercalate ", "
    (details.map fun entry => Text.quoted entry.1 ++ ": " ++ entry.2.show) ++ "\x7d"

/-- The one-line report: code name and message, then the details if there are any, then what the
failure beneath said if there was one. -/
def report (fault : Fault) : String :=
  let opening := s!"[{fault.code.codeName}] {fault.message}"
  let details :=
    if fault.details.isEmpty then [] else ["Details: " ++ showDetails fault.details]
  let cause := (fault.cause.map ("Caused by: " ++ ·)).toList
  String.intercalate " | " (opening :: details ++ cause)

end Fault

/-- Why a computation gave no value. -/
inductive Failure where
  /-- A documented fault. -/
  | fault (fault : Fault)
  /-- A decimal result that the working precision cannot hold. -/
  | inexpressibleDecimal
  /-- A decimal result beyond the range of exponents. -/
  | decimalOverflow
  /-- A number was to be shown that is too long, or a text was to be read as one that is too long or
  no number at all. -/
  | improperNumeral
  /-- A fraction with denominator zero was reduced. -/
  | zeroDenominator
  /-- A text that was to be hexadecimal is not. -/
  | malformedHex
  /-- A value of one of two kinds was asked for with both kinds given, or neither. -/
  | ambiguousChoice
  /-- A value was given of a type that the wanted one is never made of. -/
  | wrongType
  /-- An operation code that no operation has was looked up. -/
  | unregisteredOperation
  /-- A date or a time of day that there is not. -/
  | malformedTime
  /-- A number was to take eight bytes and does not fit in them. -/
  | numberOutOfRange
  /-- A time or a span of time that the calendar cannot hold. -/
  | timeOutOfRange
  /-- A result was to be written whose payload belongs to other results. -/
  | foreignPayload
  deriving DecidableEq, Repr

namespace Failure

/-- A failure of a kind with its default message and nothing more to say. -/
def plain (kind : FaultKind) : Failure :=
  .fault (Fault.of kind "" [] none)

/-- A failure of a kind with its default message and one detail. -/
def withDetail (kind : FaultKind) (name : String) (value : Detail) : Failure :=
  .fault (Fault.of kind "" [(name, value)] none)

/-- A failure of a kind with its default message, on account of another. -/
def because (kind : FaultKind) (cause : String) : Failure :=
  .fault (Fault.of kind "" [] (some cause))

/-- Malformed or out-of-range data of the wire format, in the given words. -/
def xdr (message : String) : Failure :=
  .fault (Fault.of .xdr message [] none)

/-- Malformed data of the wire format, in the given words and on account of another failure. -/
def xdrBecause (message cause : String) : Failure :=
  .fault (Fault.of .xdr message [] (some cause))

def operation (message : String) : Failure :=
  .fault (Fault.of .invalidOperation message [] none)

/-- What a failure says of itself. -/
def report : Failure → String
  | .fault known => known.report
  | .inexpressibleDecimal => "decimal result beyond the working precision"
  | .decimalOverflow => "decimal result beyond the range of exponents"
  | .improperNumeral => "number or numeral beyond the greatest length"
  | .zeroDenominator => "denominator is zero"
  | .malformedHex => "malformed hexadecimal text"
  | .ambiguousChoice => "exactly one of two choices must be given"
  | .wrongType => "value of an unsupported type"
  | .unregisteredOperation => "no operation has this code"
  | .malformedTime => "no such date or time of day"
  | .numberOutOfRange => "number out of the range of 64 bits"
  | .timeOutOfRange => "time out of the range of the calendar"
  | .foreignPayload => "payload of another result"

end Failure

/-- The kind of a value that a caller supplied where another was expected. -/
inductive ForeignValue where
  | null
  | bool
  | integer
  | float
  | text
  | list
  | record
  deriving DecidableEq, Repr

/-- The name by which messages call such a value. -/
def ForeignValue.name : ForeignValue → String
  | .null => "NoneType"
  | .bool => "bool"
  | .integer => "int"
  | .float => "float"
  | .text => "str"
  | .list => "list"
  | .record => "dict"

end LedgerWire
