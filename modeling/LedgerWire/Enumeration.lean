import LedgerWire.Claim.Predicate
import LedgerWire.LedgerKey
import LedgerWire.Memo
import LedgerWire.Operation.Kind
import LedgerWire.Result.Code
import LedgerWire.Result.Exchange

/-!
Contract: the finite types of kinds and codes in one form, for tools that list them or find a value
by its name.

Owns:
- the class `Enumeration` of the types with finitely many named and numbered values;
- the search by name and the table of names and numbers.

Does not own: the names and numbers themselves.
-/

namespace LedgerWire

/-- The types with finitely many values, each with a name and a number. -/
class Enumeration (α : Type) where
  values : List α
  name : α → String
  number : α → Int

namespace Enumeration

variable (α : Type) [Enumeration α]

def ofName? (name : String) : Option α :=
  values.find? (Enumeration.name · == name)

/-- The names and numbers of all values. -/
def table : List (String × Int) :=
  (values : List α).map fun value => (name value, number value)

end Enumeration

instance : Enumeration FaultKind := ⟨FaultKind.all, FaultKind.codeName, fun kind => kind.code⟩

instance : Enumeration OperationKind :=
    ⟨OperationKind.all, OperationKind.name, OperationKind.number⟩

instance : Enumeration OperationResultCode :=
  ⟨OperationResultCode.all, OperationResultCode.name, OperationResultCode.number⟩

instance : Enumeration TransactionResultCode :=
  ⟨TransactionResultCode.all, TransactionResultCode.name, TransactionResultCode.number⟩

instance : Enumeration MemoKind := ⟨MemoKind.all, MemoKind.name, MemoKind.number⟩

instance : Enumeration LedgerEntryKind :=
  ⟨LedgerEntryKind.all, LedgerEntryKind.name, LedgerEntryKind.number⟩

instance : Enumeration ClaimPredicateKind :=
  ⟨ClaimPredicateKind.all, ClaimPredicateKind.name, ClaimPredicateKind.number⟩

instance : Enumeration ClaimAtomKind :=
    ⟨ClaimAtomKind.all, ClaimAtomKind.name, ClaimAtomKind.number⟩

instance : Enumeration OfferEffectKind :=
  ⟨OfferEffectKind.all, OfferEffectKind.name, OfferEffectKind.number⟩

end LedgerWire
