import LedgerWire.Result.Operation

/-!
Contract: what became of a transaction: the fee that was charged, and a code. A transaction that was
carried out has a result for each operation; one that is a fee bump has the hash and the result of
the transaction it paid for; all others have a code alone.

Owns:
- `Outcome`, `InnerTransactionResult` and `TransactionResult` with their wire forms.

Does not own: the results of operations.
-/

namespace LedgerWire

open Wire

/-- What became of a transaction that is no fee bump. -/
inductive Outcome where
  | carriedOut (succeeded : Bool) (results : List OperationResult)
  | rejected (code : TransactionResultCode) (bare : code.IsBare)
  deriving DecidableEq

namespace Outcome

def code : Outcome → TransactionResultCode
  | .carriedOut true _ => .success
  | .carriedOut false _ => .failed
  | .rejected code _ => code

/-- The results of the operations of a transaction that was carried out. -/
def results? : Outcome → Option (List OperationResult)
  | .carriedOut _ results => some results
  | .rejected _ _ => none

def mismatch (code : TransactionResultCode) : Failure :=
  Failure.xdr s!"operation results do not match result code {code.name}"

def unknownCode (number : Int) : Failure :=
  Failure.xdrBecause s!"unknown transaction result code: {number}"
    s!"{number} is not a valid TransactionResultCode"

def kinds (number : Int) : Option (Codec Outcome) := do
  let code ← TransactionResultCode.ofNumber? number
  if code.CarriesResults then
    some ((OperationResult.codec.array none).arm (.carriedOut (code = .success)) results?)
  else if h : code.IsBare then
    some (Codec.nothing.arm (fun _ => .rejected code h) fun | .rejected _ _ => some () | _ => none)
  else
    none

end Outcome

def TransactionResultCode.unknownExtension (version : Int) : Failure :=
  Failure.xdr s!"unsupported transaction result extension version: {version}"

/-- The result of the transaction that a fee bump paid for. -/
structure InnerTransactionResult where
  feeCharged : Stroops
  outcome : Outcome
  deriving DecidableEq

namespace InnerTransactionResult

def feeBumpInside (code : TransactionResultCode) : Failure :=
  Failure.xdr s!"inner transaction result cannot be {code.name}"

def make
    (feeCharged : Stroops)
    (code : TransactionResultCode)
    (results : Option (List OperationResult)) : Except Failure InnerTransactionResult :=
  if code.IsFeeBump then
    .error (feeBumpInside code)
  else
    match results with
    | some results =>
      if code.CarriesResults then .ok ⟨feeCharged, .carriedOut (code = .success) results⟩
      else .error (Outcome.mismatch code)
    | none =>
      if h : code.IsBare then .ok ⟨feeCharged, .rejected code h⟩
      else .error (Outcome.mismatch code)

def unknownCode (number : Int) : Failure :=
  match TransactionResultCode.ofNumber? number with
  | some code => feeBumpInside code
  | none => Outcome.unknownCode number

def codec : Codec InnerTransactionResult :=
  (Stroops.codec.pair <|
    (Codec.union Codec.int32 (·.code.number) Outcome.kinds unknownCode).pair
      (Codec.reserved TransactionResultCode.unknownExtension)).convert
    (fun (feeCharged, outcome, _) => ⟨feeCharged, outcome⟩)
    (fun result => (result.feeCharged, result.outcome, ()))

end InnerTransactionResult

/-- What became of a transaction or fee bump. -/
inductive FinalOutcome where
  | own (outcome : Outcome)
  | feeBump (succeeded : Bool) (hash : FixedBytes 32) (inner : InnerTransactionResult)
  deriving DecidableEq

namespace FinalOutcome

def code : FinalOutcome → TransactionResultCode
  | .own outcome => outcome.code
  | .feeBump true _ _ => .feeBumpInnerSuccess
  | .feeBump false _ _ => .feeBumpInnerFailed

def own? : FinalOutcome → Option Outcome
  | .own outcome => some outcome
  | .feeBump _ _ _ => none

/-- The hash and the result of the transaction that a fee bump paid for. -/
def feeBump? : FinalOutcome → Option (FixedBytes 32 × InnerTransactionResult)
  | .own _ => none
  | .feeBump _ hash inner => some (hash, inner)

def kinds (number : Int) : Option (Codec FinalOutcome) :=
  if number = 1 || number = -13 then
    some (((Codec.fixedBytes 32).pair InnerTransactionResult.codec).arm
      (fun parts => .feeBump (number = 1) parts.1 parts.2) feeBump?)
  else
    (Outcome.kinds number).map (·.arm .own own?)

end FinalOutcome

/-- The result of a submitted transaction. -/
structure TransactionResult where
  feeCharged : Stroops
  outcome : FinalOutcome
  deriving DecidableEq

namespace TransactionResult

def code (result : TransactionResult) : TransactionResultCode := result.outcome.code

/-- The results of the operations, of the inner transaction where there is one. -/
def operationResults (result : TransactionResult) : List OperationResult :=
  match result.outcome with
  | .own outcome => outcome.results?.getD []
  | .feeBump _ _ inner => inner.outcome.results?.getD []

def mismatch (code : TransactionResultCode) : Failure :=
  Failure.xdr s!"inner result does not match result code {code.name}"

def hashOf (bytes : Bytes) : Except Failure (FixedBytes 32) :=
  if h : bytes.length = 32 then .ok ⟨bytes, h⟩
  else .error (Failure.xdr "inner transaction hash must be 32 bytes")

def make
    (feeCharged : Stroops)
    (code : TransactionResultCode)
    (results : Option (List OperationResult))
    (hash : Option Bytes)
    (inner : Option InnerTransactionResult) : Except Failure TransactionResult :=
  if code.CarriesResults then
    match results, hash, inner with
    | some results, none, none => .ok ⟨feeCharged, .own (.carriedOut (code = .success) results)⟩
    | some _, _, _ => .error (mismatch code)
    | none, _, _ => .error (Outcome.mismatch code)
  else if h : code.IsBare then
    match results, hash, inner with
    | none, none, none => .ok ⟨feeCharged, .own (.rejected code h)⟩
    | none, _, _ => .error (mismatch code)
    | some _, _, _ => .error (Outcome.mismatch code)
  else
    match results, hash, inner with
    | none, some bytes, some inner => do
      return ⟨feeCharged, .feeBump (code = .feeBumpInnerSuccess) (← hashOf bytes) inner⟩
    | none, _, _ => .error (mismatch code)
    | some _, _, _ => .error (Outcome.mismatch code)

def codec : Codec TransactionResult :=
  (Stroops.codec.pair <|
    (Codec.union Codec.int32 (·.code.number) FinalOutcome.kinds Outcome.unknownCode).pair
      (Codec.reserved TransactionResultCode.unknownExtension)).convert
    (fun (feeCharged, outcome, _) => ⟨feeCharged, outcome⟩)
    (fun result => (result.feeCharged, result.outcome, ()))

end TransactionResult

end LedgerWire
