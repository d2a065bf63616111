/-!
Contract: which power `x ^ n` is on numbers.

Owns: the choice of the core library's power of naturals and integers, in every module and whatever
else is imported. An import that brings monoids offers theirs too: equal, but not the same term.

Does not own: any fact about powers.
-/

namespace LedgerWire

/-- The core library's power, taken before any other. -/
@[default_instance 20000]
instance (priority := 2000) corePower {α : Type} [NatPow α] : Pow α Nat :=
  instPowNat

end LedgerWire
