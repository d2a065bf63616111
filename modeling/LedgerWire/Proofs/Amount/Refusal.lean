import LedgerWire.Proofs.Amount.Counting
import LedgerWire.Proofs.Amount.Range

/-!
Contract: how the text of an amount is refused. It is refused by a documented fault, for its form,
for its digits after the point or for its range, unless it has more digits than sums are worked out
in: then the padding to seven digits after the point fails, and that is no documented fault.

Owns:
- `FailsOnlyBy`, the failures a caller is told of;
- the texts of amounts, and of counts of stroops, that fail in another way.

Does not own: texts of prices.
-/

namespace LedgerWire

open Decimal

/-- Whether every failure of a computation is a documented fault of one of these kinds. -/
def FailsOnlyBy {α : Type} (kinds : List FaultKind) (result : Except Failure α) : Prop :=
  ∀ failure, result = .error failure → ∃ fault, failure = .fault fault ∧ fault.kind ∈ kinds

section FailsOnlyBy

variable {α : Type} {kinds : List FaultKind}

theorem failsOnlyBy_ok (value : α) : FailsOnlyBy kinds (.ok value) := by
  intro failure failed
  cases failed

theorem failsOnlyBy_fault {fault : Fault} (kind : fault.kind ∈ kinds) :
    FailsOnlyBy kinds (.error (.fault fault) : Except Failure α) := by
  intro failure failed
  cases failed
  exact ⟨fault, rfl, kind⟩

theorem FailsOnlyBy.mono {more : List FaultKind} {result : Except Failure α}
    (documented : FailsOnlyBy kinds result)
    (subset : kinds ⊆ more) : FailsOnlyBy more result := by
  intro failure failed
  rcases documented failure failed with ⟨fault, isFault, kind⟩
  exact ⟨fault, isFault, subset kind⟩

theorem FailsOnlyBy.bind {β : Type} {first : Except Failure α} {next : α → Except Failure β}
    (documented : FailsOnlyBy kinds first) (continued : ∀ value, FailsOnlyBy kinds (next value)) :
    FailsOnlyBy kinds (first >>= next) := by
  cases first with
  | ok value => exact continued value
  | error failure =>
    intro reported failed
    cases failed
    exact documented failure rfl

theorem not_failsOnlyBy {failure : Failure} (undocumented : ∀ fault, failure ≠ .fault fault) :
    ¬ FailsOnlyBy kinds (.error failure : Except Failure α) := by
  intro documented
  rcases documented failure rfl with ⟨fault, isFault, -⟩
  exact undocumented fault isFault

end FailsOnlyBy

namespace Amount

/-! ### Amounts -/

/-- Whether a text has more than 73 digits before the point, zeros in front not counted, and at most
seven behind it. -/
def TooLong (text : String) : Prop :=
  ∃ literal : Literal, literal.text = text ∧ literal.places ≤ stroopsScale ∧
    (10 : ℚ) ^ 73 ≤ |literal.value|

variable {literal : Literal}

theorem few_iff_of_short (short : literal.places ≤ stroopsScale) :
    digitCount ((numberOf literal).truncateTo stroopsScale).coefficient ≤ exactPrecision ↔
      |literal.value| < 10 ^ 73 := by
  have magnitude : |literal.value| =
      ((numberOf literal).truncateTo stroopsScale).coefficient / 10 ^ 7 := by
    rw [← value_of_short short, abs_value, truncateTo_exponent, zpow_neg, ← div_eq_mul_inv]
    rfl
  rw [digitCount_le_iff (by decide), magnitude, div_lt_iff₀ (by positivity)]
  show _ < 10 ^ 80 ↔ _
  rw [show (10 : ℚ) ^ 73 * 10 ^ 7 = ((10 ^ 80 : Nat) : ℚ) by norm_num]
  exact Nat.cast_lt.symm

theorem parse_of_tooLong {text : String} (tooLong : TooLong text) :
    parse text = .error .inexpressibleDecimal := by
  rcases tooLong with ⟨literal, rfl, short, large⟩
  have many := mt (few_iff_of_short short).mp (not_lt.mpr large)
  have notLong : ¬ stroopsScale < (numberOf literal).scale := by
    rw [scale_numberOf]
    exact not_lt.mpr short
  unfold parse pad
  rw [parse?_literal]
  simp only [if_neg notLong, if_neg many]
  rfl

theorem failsOnlyBy_parse {text : String} (notTooLong : ¬ TooLong text) :
    FailsOnlyBy [.unparsedAmount, .invalidAmountScale] (parse text) := by
  cases read : parse? text with
  | none =>
    unfold parse
    rw [read]
    exact failsOnlyBy_fault (List.mem_cons_self)
  | some number =>
    rcases exists_literal_of_parse? read with ⟨literal, rfl⟩
    by_cases long : stroopsScale < literal.places
    · rw [parse_of_long long]
      exact failsOnlyBy_fault (List.mem_cons_of_mem _ List.mem_cons_self)
    · have short := not_lt.mp long
      have few := (few_iff_of_short short).mpr
        (not_le.mp fun large => notTooLong ⟨literal, rfl, short, large⟩)
      have notLong : ¬ stroopsScale < (numberOf literal).scale := by rwa [scale_numberOf]
      unfold parse pad
      rw [parse?_literal]
      simp only [if_neg notLong, if_pos few]
      split_ifs
      · exact failsOnlyBy_ok _
      · exact failsOnlyBy_fault (List.mem_cons_self)

theorem failsOnlyBy_parse_iff {text : String} :
    FailsOnlyBy [.unparsedAmount, .invalidAmountScale] (parse text) ↔ ¬ TooLong text := by
  constructor
  · intro documented tooLong
    rw [parse_of_tooLong tooLong] at documented
    exact not_failsOnlyBy (fun _ => Failure.noConfusion) documented
  · exact failsOnlyBy_parse

end Amount

/-! ### Counts of stroops -/

theorem Amount.failsOnlyBy_toStroops {amount : Amount}
    (seven : amount.value.exponent = -stroopsScale) :
    FailsOnlyBy [.invalidStroops] amount.toStroops := by
  have scale : ¬ amount.scale ≠ stroopsScale := by
    show ¬ (-amount.value.exponent).toNat ≠ 7
    rw [seven]
    decide
  unfold toStroops
  rw [if_neg scale]
  split
  · exact failsOnlyBy_ok _
  · exact failsOnlyBy_fault (List.mem_cons_self)

namespace StroopsSource

/-- Faults of a text as an amount become faults of the count. -/
theorem failsOnlyBy_blame {given : String} {result : Except Failure Stroops}
    (documented : FailsOnlyBy [.invalidStroops, .unparsedAmount, .invalidAmountScale] result) :
    FailsOnlyBy [.invalidStroops] (blame given result) := by
  cases result with
  | ok stroops => exact failsOnlyBy_ok stroops
  | error failure =>
    rcases documented failure rfl with ⟨fault, rfl, kind⟩
    unfold blame
    simp only
    split_ifs with taken
    · exact failsOnlyBy_fault List.mem_cons_self
    · simp only [Bool.or_eq_true, decide_eq_true_eq, not_or] at taken
      apply failsOnlyBy_fault
      simp only [List.mem_cons, List.not_mem_nil, or_false] at kind ⊢
      tauto

theorem failsOnlyBy_toStroops_iff {given : String} :
    FailsOnlyBy [.invalidStroops] (text given).toStroops ↔ ¬ Amount.TooLong given := by
  show FailsOnlyBy _ (blame given (Amount.parse given >>= Amount.toStroops)) ↔ _
  constructor
  · intro documented tooLong
    rw [Amount.parse_of_tooLong tooLong] at documented
    exact not_failsOnlyBy (fun _ => Failure.noConfusion) documented
  · intro notTooLong
    apply failsOnlyBy_blame
    cases read : Amount.parse given with
    | error failure =>
      rcases Amount.failsOnlyBy_parse notTooLong failure read with ⟨fault, rfl, kind⟩
      exact failsOnlyBy_fault (List.mem_cons_of_mem _ kind)
    | ok amount =>
      exact (Amount.failsOnlyBy_toStroops (Amount.exponent_of_parse read)).mono
        (List.cons_subset_cons _ (List.nil_subset _))

end StroopsSource

end LedgerWire
