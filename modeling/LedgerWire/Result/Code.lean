import LedgerWire.Operation.Kind

/-!
Contract: the codes by which a network says what became of an operation or a transaction. An
operation that was applied has a code of its own kind: zero for success, and numbers from minus one
downwards for the ways in which the kind can fail.

Owns:
- `OperationKind.resultNames`, the table of codes of each kind;
- `OperationResultCode` and `TransactionResultCode`.

Does not own: what comes with a code.
-/

namespace LedgerWire

namespace OperationKind

/-- The names of the codes of path payments up to the last one, in which the two kinds differ. -/
def pathPaymentResultNames : List String := [
  "SUCCESS", "MALFORMED", "UNDERFUNDED", "SRC_NO_TRUST", "SRC_NOT_AUTHORIZED", "NO_DESTINATION",
  "NO_TRUST", "NOT_AUTHORIZED", "LINE_FULL", "NO_ISSUER", "TOO_FEW_OFFERS", "OFFER_CROSS_SELF"]

/-- The names of the codes of the three kinds of offer. -/
def offerResultNames : List String := [
  "SUCCESS", "MALFORMED", "SELL_NO_TRUST", "BUY_NO_TRUST", "SELL_NOT_AUTHORIZED",
  "BUY_NOT_AUTHORIZED", "LINE_FULL", "UNDERFUNDED", "CROSS_SELF", "SELL_NO_ISSUER",
  "BUY_NO_ISSUER", "NOT_FOUND", "LOW_RESERVE"]

/-- The names of the codes of a kind, for zero, minus one and so on. -/
def resultNames : OperationKind → List String
  | .createAccount => ["SUCCESS", "MALFORMED", "UNDERFUNDED", "LOW_RESERVE", "ALREADY_EXIST"]
  | .payment => [
    "SUCCESS", "MALFORMED", "UNDERFUNDED", "SRC_NO_TRUST", "SRC_NOT_AUTHORIZED", "NO_DESTINATION",
    "NO_TRUST", "NOT_AUTHORIZED", "LINE_FULL", "NO_ISSUER"]
  | .pathPaymentStrictReceive => pathPaymentResultNames ++ ["OVER_SENDMAX"]
  | .pathPaymentStrictSend => pathPaymentResultNames ++ ["UNDER_DESTMIN"]
  | .manageSellOffer | .createPassiveSellOffer | .manageBuyOffer => offerResultNames
  | .setOptions => [
    "SUCCESS", "LOW_RESERVE", "TOO_MANY_SIGNERS", "BAD_FLAGS", "INVALID_INFLATION", "CANT_CHANGE",
    "UNKNOWN_FLAG", "THRESHOLD_OUT_OF_RANGE", "BAD_SIGNER", "INVALID_HOME_DOMAIN",
    "AUTH_REVOCABLE_REQUIRED"]
  | .changeTrust => [
    "SUCCESS", "MALFORMED", "NO_ISSUER", "INVALID_LIMIT", "LOW_RESERVE", "SELF_NOT_ALLOWED",
    "TRUST_LINE_MISSING", "CANNOT_DELETE", "NOT_AUTH_MAINTAIN_LIABILITIES"]
  | .allowTrust => [
    "SUCCESS", "MALFORMED", "NO_TRUST_LINE", "TRUST_NOT_REQUIRED", "CANT_REVOKE",
    "SELF_NOT_ALLOWED", "LOW_RESERVE"]
  | .accountMerge => [
    "SUCCESS", "MALFORMED", "NO_ACCOUNT", "IMMUTABLE_SET", "HAS_SUB_ENTRIES", "SEQNUM_TOO_FAR",
    "DEST_FULL", "IS_SPONSOR"]
  | .inflation => ["SUCCESS", "NOT_TIME"]
  | .manageData => [
    "SUCCESS", "NOT_SUPPORTED_YET", "NAME_NOT_FOUND", "LOW_RESERVE", "INVALID_NAME"]
  | .bumpSequence => ["SUCCESS", "BAD_SEQ"]
  | .createClaimableBalance => [
    "SUCCESS", "MALFORMED", "LOW_RESERVE", "NO_TRUST", "NOT_AUTHORIZED", "UNDERFUNDED"]
  | .claimClaimableBalance => [
    "SUCCESS", "DOES_NOT_EXIST", "CANNOT_CLAIM", "LINE_FULL", "NO_TRUST", "NOT_AUTHORIZED"]
  | .beginSponsoring => ["SUCCESS", "MALFORMED", "ALREADY_SPONSORED", "RECURSIVE"]
  | .endSponsoring => ["SUCCESS", "NOT_SPONSORED"]
  | .revokeSponsorship => [
    "SUCCESS", "DOES_NOT_EXIST", "NOT_SPONSOR", "LOW_RESERVE", "ONLY_TRANSFERABLE", "MALFORMED"]
  | .clawback => ["SUCCESS", "MALFORMED", "NOT_CLAWBACK_ENABLED", "NO_TRUST", "UNDERFUNDED"]
  | .clawbackClaimableBalance => [
    "SUCCESS", "DOES_NOT_EXIST", "NOT_ISSUER", "NOT_CLAWBACK_ENABLED"]
  | .setTrustLineFlags => [
    "SUCCESS", "MALFORMED", "NO_TRUST_LINE", "CANT_REVOKE", "INVALID_STATE", "LOW_RESERVE"]
  | .poolDeposit => [
    "SUCCESS", "MALFORMED", "NO_TRUST", "NOT_AUTHORIZED", "UNDERFUNDED", "LINE_FULL", "BAD_PRICE",
    "POOL_FULL"]
  | .poolWithdraw => [
    "SUCCESS", "MALFORMED", "NO_TRUST", "UNDERFUNDED", "LINE_FULL", "UNDER_MINIMUM"]

/-- The name of a number among the codes of a kind, if it is one. -/
def resultName? (kind : OperationKind) (code : Int) : Option String :=
  if code ≤ 0 then kind.resultNames[(-code).toNat]? else none

/-- The name of the table of a kind's codes; the kinds of offer share one. -/
def resultTableName : OperationKind → String
  | .manageSellOffer | .createPassiveSellOffer | .manageBuyOffer => "ManageOfferResultCode"
  | kind => kind.word ++ "ResultCode"

end OperationKind

/-- Whether an operation was applied, and why not. -/
inductive OperationResultCode where
  | inner
  | badAuth
  | noAccount
  | notSupported
  | tooManySubentries
  | exceededWorkLimit
  | tooManySponsoring
  deriving DecidableEq, Repr

namespace OperationResultCode

/-- All codes, by falling number. -/
def all : List OperationResultCode := [
  .inner, .badAuth, .noAccount, .notSupported, .tooManySubentries, .exceededWorkLimit,
  .tooManySponsoring]

def number : OperationResultCode → Int
  | .inner => 0
  | .badAuth => -1
  | .noAccount => -2
  | .notSupported => -3
  | .tooManySubentries => -4
  | .exceededWorkLimit => -5
  | .tooManySponsoring => -6

def ofNumber? (number : Int) : Option OperationResultCode :=
  all.find? (·.number == number)

def name : OperationResultCode → String
  | .inner => "INNER"
  | .badAuth => "BAD_AUTH"
  | .noAccount => "NO_ACCOUNT"
  | .notSupported => "NOT_SUPPORTED"
  | .tooManySubentries => "TOO_MANY_SUBENTRIES"
  | .exceededWorkLimit => "EXCEEDED_WORK_LIMIT"
  | .tooManySponsoring => "TOO_MANY_SPONSORING"

end OperationResultCode

/-- What became of a transaction. -/
inductive TransactionResultCode where
  | feeBumpInnerSuccess
  | success
  | failed
  | tooEarly
  | tooLate
  | missingOperation
  | badSeq
  | badAuth
  | insufficientBalance
  | noAccount
  | insufficientFee
  | badAuthExtra
  | internalError
  | notSupported
  | feeBumpInnerFailed
  | badSponsorship
  | badMinSeqAgeOrGap
  | malformed
  | sorobanInvalid
  deriving DecidableEq, Repr

namespace TransactionResultCode

/-- All codes, by falling number. -/
def all : List TransactionResultCode := [
  .feeBumpInnerSuccess, .success, .failed, .tooEarly, .tooLate, .missingOperation, .badSeq,
  .badAuth, .insufficientBalance, .noAccount, .insufficientFee, .badAuthExtra, .internalError,
  .notSupported, .feeBumpInnerFailed, .badSponsorship, .badMinSeqAgeOrGap, .malformed,
  .sorobanInvalid]

def number : TransactionResultCode → Int
  | .feeBumpInnerSuccess => 1
  | .success => 0
  | .failed => -1
  | .tooEarly => -2
  | .tooLate => -3
  | .missingOperation => -4
  | .badSeq => -5
  | .badAuth => -6
  | .insufficientBalance => -7
  | .noAccount => -8
  | .insufficientFee => -9
  | .badAuthExtra => -10
  | .internalError => -11
  | .notSupported => -12
  | .feeBumpInnerFailed => -13
  | .badSponsorship => -14
  | .badMinSeqAgeOrGap => -15
  | .malformed => -16
  | .sorobanInvalid => -17

def ofNumber? (number : Int) : Option TransactionResultCode :=
  all.find? (·.number == number)

def name : TransactionResultCode → String
  | .feeBumpInnerSuccess => "FEE_BUMP_INNER_SUCCESS"
  | .success => "SUCCESS"
  | .failed => "FAILED"
  | .tooEarly => "TOO_EARLY"
  | .tooLate => "TOO_LATE"
  | .missingOperation => "MISSING_OPERATION"
  | .badSeq => "BAD_SEQ"
  | .badAuth => "BAD_AUTH"
  | .insufficientBalance => "INSUFFICIENT_BALANCE"
  | .noAccount => "NO_ACCOUNT"
  | .insufficientFee => "INSUFFICIENT_FEE"
  | .badAuthExtra => "BAD_AUTH_EXTRA"
  | .internalError => "INTERNAL_ERROR"
  | .notSupported => "NOT_SUPPORTED"
  | .feeBumpInnerFailed => "FEE_BUMP_INNER_FAILED"
  | .badSponsorship => "BAD_SPONSORSHIP"
  | .badMinSeqAgeOrGap => "BAD_MIN_SEQ_AGE_OR_GAP"
  | .malformed => "MALFORMED"
  | .sorobanInvalid => "SOROBAN_INVALID"

/-- Whether results of operations come with a code. -/
def CarriesResults (code : TransactionResultCode) : Prop := code = .success ∨ code = .failed

/-- Whether a code is about the transaction inside a fee bump. -/
def IsFeeBump (code : TransactionResultCode) : Prop :=
  code = .feeBumpInnerSuccess ∨ code = .feeBumpInnerFailed

instance (code : TransactionResultCode) : Decidable code.CarriesResults :=
  inferInstanceAs (Decidable (_ ∨ _))

instance (code : TransactionResultCode) : Decidable code.IsFeeBump :=
  inferInstanceAs (Decidable (_ ∨ _))

/-- A code with which nothing comes. -/
def IsBare (code : TransactionResultCode) : Prop := ¬code.CarriesResults ∧ ¬code.IsFeeBump

instance (code : TransactionResultCode) : Decidable code.IsBare :=
  inferInstanceAs (Decidable (_ ∧ _))

end TransactionResultCode

end LedgerWire
