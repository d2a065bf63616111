import LedgerWire.Amount

/-!
Contract: the operations of arithmetic by name, on counts of stroops and on amounts. The two agree
where both have a result of seven digits.

Owns:
- `Arithmetic`, the operations and their names;
- what each does on counts and on amounts.

Does not own: the operations themselves.
-/

namespace LedgerWire

inductive Arithmetic where
  | add
  | sub
  | mul
  | div
  | rem
  deriving DecidableEq

namespace Arithmetic

def all : List Arithmetic := [.add, .sub, .mul, .div, .rem]

def name : Arithmetic → String
  | .add => "add"
  | .sub => "sub"
  | .mul => "mul"
  | .div => "div"
  | .rem => "rem"

def ofName? (name : String) : Option Arithmetic :=
  all.find? (·.name == name)

end Arithmetic

def Stroops.checked : Arithmetic → Stroops → Stroops → Option Stroops
  | .add => checkedAdd
  | .sub => checkedSub
  | .mul => checkedMul
  | .div => checkedDiv
  | .rem => checkedRem

def Amount.checked : Arithmetic → Amount → Amount → Except Failure (Option Amount)
  | .add => checkedAdd
  | .sub => checkedSub
  | .mul => checkedMul
  | .div => checkedDiv
  | .rem => checkedRem

end LedgerWire
