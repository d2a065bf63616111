import LedgerWire.Arithmetic
import LedgerWire.Proofs.Decimal.Exponent

/-!
Contract: how far arithmetic gets from amounts that were made. The bound of amounts is on their
digits, and a quotient may stand for a number of many more: one of few digits with zeros left out
before the point. As long as no such quotient is among the results, sums, products, quotients and
remainders stay in range; and as long as all results are in range, no operation fails.

Owns:
- `Amount.InRange`, the numbers of 96 bits and 28 digits after the point, and which amounts are
  among them;
- what one operation gives on amounts in range, and on amounts that are written out;
- `Amount.replies`, the results of operations one after the other, and when all of them are in
  range.

Does not own: which number an operation gives.
-/

namespace LedgerWire.Amount

open Decimal

/-! ### Numbers in range -/

/-- Whether a number has at most 28 digits after the point and, with these, at most 96 bits. -/
def InRange (x : ℚ) : Prop :=
  ∃ (n : Int) (places : Nat), |n| ≤ maxCoefficient ∧ places ≤ maxScale ∧ x = n / (10 : ℚ) ^ places

/-- Whether no zeros are left out before the point. -/
def WrittenOut (amount : Amount) : Prop := amount.value.exponent ≤ 0

theorem inRange_iff (amount : Amount) :
    InRange amount.value.value ↔ |amount.value.value| ≤ maxCoefficient := by
  constructor
  · intro inRange
    rcases inRange with ⟨n, places, bounded, -, same⟩
    have boundedQ : |(n : ℚ)| ≤ maxCoefficient := by exact_mod_cast bounded
    rw [same, abs_div, abs_of_pos (by positivity : (0 : ℚ) < 10 ^ places)]
    exact (div_le_self (abs_nonneg _) (one_le_pow₀ (by norm_num))).trans boundedQ
  · intro bounded
    by_cases whole : 0 ≤ amount.value.exponent
    · rw [amount.value.value_eq_signedAt whole, zpow_zero, mul_one] at bounded ⊢
      exact ⟨amount.value.signedAt 0, 0, by exact_mod_cast bounded, Nat.zero_le _, by simp⟩
    · refine ⟨amount.value.signed, amount.value.scale, ?_, ?_, ?_⟩
      · have few := amount.bounded.1
        unfold signed
        cases amount.value.negative <;> simpa using few
      · have least := amount.bounded.2
        unfold Decimal.scale
        omega
      · rw [amount.value.value_of_exponent_neg (by omega)]
        push_cast
        rfl

theorem WrittenOut.abs_value_le {amount : Amount} (writtenOut : WrittenOut amount) :
    |amount.value.value| ≤ maxCoefficient := by
  have few : (amount.value.coefficient : ℚ) ≤ maxCoefficient := by exact_mod_cast amount.bounded.1
  have small : (10 : ℚ) ^ amount.value.exponent ≤ 1 := by
    rw [← zpow_zero (10 : ℚ)]
    exact tens_le_tens writtenOut
  rw [abs_value]
  exact (mul_le_of_le_one_right (Nat.cast_nonneg _) small).trans few

theorem abs_value_le_tens {amount : Amount} (within : |amount.value.value| ≤ maxCoefficient) :
    |amount.value.value| ≤ (10 : ℚ) ^ (29 : Int) := by
  apply within.trans
  norm_num [maxCoefficient]

theorem tens_le_abs_value {amount : Amount} (nonzero : amount.value.value ≠ 0) :
    (10 : ℚ) ^ (-28 : Int) ≤ |amount.value.value| := by
  have positive : 1 ≤ amount.value.coefficient := by
    rw [Ne, ← isZero_iff] at nonzero
    exact Nat.pos_of_ne_zero (by simpa [isZero] using nonzero)
  rw [abs_value]
  calc
    (10 : ℚ) ^ (-28 : Int) ≤ 10 ^ amount.value.exponent := tens_le_tens amount.bounded.2
    _ = 1 * 10 ^ amount.value.exponent := (one_mul _).symm
    _ ≤ amount.value.coefficient * 10 ^ amount.value.exponent :=
      mul_le_mul_of_nonneg_right (by exact_mod_cast positive) (tens_pos _).le

/-! ### One operation -/

-- 58 digits hold every sum, product and quotient of amounts in range.
theorem abs_le_greatest {x : ℚ} (bounded : |x| ≤ (10 : ℚ) ^ (58 : Int)) :
    |x| ≤ (10 : ℚ) ^ greatestExponent :=
  bounded.trans (tens_le_tens (by decide))

theorem exists_settle {result : Except Condition Decimal} (there : ∃ d, result = .ok d) :
    ∃ amount?, settle result = .ok amount? := by
  rcases there with ⟨d, rfl⟩
  exact ⟨bound? d, rfl⟩

theorem abs_div_le_tens {a b : Amount} (left : |a.value.value| ≤ maxCoefficient)
    (nonzero : b.value.value ≠ 0) : |a.value.value / b.value.value| ≤ (10 : ℚ) ^ (57 : Int) := by
  have least := tens_le_abs_value nonzero
  rw [abs_div, div_le_iff₀ (abs_pos.mpr nonzero)]
  calc
    |a.value.value| ≤ (10 : ℚ) ^ (29 : Int) := abs_value_le_tens left
    _ = 10 ^ (57 : Int) * 10 ^ (-28 : Int) := by norm_num
    _ ≤ 10 ^ (57 : Int) * |b.value.value| := mul_le_mul_of_nonneg_left least (tens_pos _).le

section Within

variable {a b : Amount} (left : |a.value.value| ≤ maxCoefficient)
  (right : |b.value.value| ≤ maxCoefficient)
include left right

theorem abs_add_le_tens : |a.value.value| + |b.value.value| ≤ (10 : ℚ) ^ (58 : Int) := by
  have bounds := add_le_add (abs_value_le_tens left) (abs_value_le_tens right)
  apply bounds.trans
  norm_num

/-- On amounts in range no operation fails. -/
theorem exists_checked (operation : Arithmetic) :
    ∃ amount?, checked operation a b = .ok amount? := by
  have sum := abs_add_le_tens left right
  cases operation with
  | add =>
    have added := exists_add (by decide : 1 ≤ exactPrecision) a.value b.value
      (abs_le_greatest ((abs_add_le _ _).trans sum))
    exact exists_settle (added.imp fun _ => And.left)
  | sub =>
    have subtracted := exists_sub (by decide : 1 ≤ exactPrecision) a.value b.value
      (abs_le_greatest ((abs_sub _ _).trans sum))
    exact exists_settle (subtracted.imp fun _ => And.left)
  | mul =>
    have product : |a.value.value * b.value.value| ≤ (10 : ℚ) ^ (58 : Int) := by
      rw [abs_mul, show (58 : Int) = 29 + 29 by rfl, zpow_add₀ (by norm_num)]
      exact mul_le_mul (abs_value_le_tens left) (abs_value_le_tens right) (abs_nonneg _)
        (tens_pos _).le
    have multiplied :=
      exists_mul (by decide : 1 ≤ exactPrecision) a.value b.value (abs_le_greatest product)
    exact exists_settle (multiplied.imp fun _ => And.left)
  | div =>
    by_cases zero : b.value.isZero
    · exact ⟨none, if_pos zero⟩
    · have nonzero : b.value.value ≠ 0 := fun none => zero (isZero_iff.mpr none)
      have quotient :=
        (abs_div_le_tens left nonzero).trans (tens_le_tens (by decide : (57 : Int) ≤ 58))
      have divided :=
        exists_div (by decide : 1 ≤ quotientPrecision) a.value nonzero (abs_le_greatest quotient)
      rw [show checked .div a b = _ from if_neg zero]
      exact exists_settle (divided.imp fun _ => And.left)
  | rem =>
    by_cases zero : b.value.isZero
    · exact ⟨none, if_pos zero⟩
    · have nonzero : b.value.value ≠ 0 := fun none => zero (isZero_iff.mpr none)
      have few : |a.value.value / b.value.value| < (10 : ℚ) ^ exactPrecision := by
        apply (abs_div_le_tens left nonzero).trans_lt
        norm_num [exactPrecision]
      have dividend := (abs_value_le_tens left).trans (tens_le_tens (by decide : (29 : Int) ≤ 58))
      rw [show checked .rem a b = _ from if_neg zero]
      exact exists_settle (exists_rem (by decide) nonzero few (abs_le_greatest dividend))

end Within

theorem WrittenOut.of_bound? {d : Decimal} {amount : Amount} (bounded : bound? d = some amount)
    (nonpositive : d.exponent ≤ 0) : WrittenOut amount := by
  unfold bound? at bounded
  simp only at bounded
  split_ifs at bounded with long
  · cases bounded
    apply (truncateTo_exponent maxScale d).trans_le
    decide
  · cases bounded
    exact nonpositive

theorem settle_eq_ok_some {result : Except Condition Decimal} {amount : Amount}
    (settled : settle result = .ok (some amount)) :
    ∃ d, result = .ok d ∧ bound? d = some amount := by
  cases result with
  | ok d => exact ⟨d, rfl, Except.ok.inj settled⟩
  | error condition => cases settled

theorem WrittenOut.coefficientAt_le {amount : Amount} (writtenOut : WrittenOut amount)
    {exponent : Int}
    (least : -28 ≤ exponent) : amount.value.coefficientAt exponent ≤ maxCoefficient * 10 ^ 28 := by
  have places : (amount.value.exponent - exponent).toNat ≤ 28 := by
    unfold WrittenOut at writtenOut
    omega
  exact Nat.mul_le_mul amount.bounded.1 (Nat.pow_le_pow_right (by decide) places)

theorem leastExponent_le {exponent : Int} (least : -56 ≤ exponent) :
    leastExponent exactPrecision ≤ exponent :=
  le_trans (by decide) least

section WrittenOut

variable {a b : Amount} (left : WrittenOut a) (right : WrittenOut b)
include left right

theorem sum_lt_pow {exponent : Int} (least : -28 ≤ exponent) :
    a.value.coefficientAt exponent + b.value.coefficientAt exponent < 10 ^ exactPrecision := by
  apply (Nat.add_le_add (left.coefficientAt_le least) (right.coefficientAt_le least)).trans_lt
  norm_num [maxCoefficient, exactPrecision]

/-- Only a quotient leaves out zeros before the point that its operands do not leave out. -/
theorem WrittenOut.checked {operation : Arithmetic} (noQuotient : operation ≠ .div)
    {result : Amount}
    (done : Amount.checked operation a b = .ok (some result)) : WrittenOut result := by
  have least : -28 ≤ min a.value.exponent b.value.exponent := le_min a.bounded.2 b.bounded.2
  have nonpositive : min a.value.exponent b.value.exponent ≤ 0 := (min_le_left _ _).trans left
  have few := sum_lt_pow left right least
  have lowest := leastExponent_le ((by decide : (-56 : Int) ≤ -28).trans least)
  cases operation with
  | add =>
    rcases settle_eq_ok_some done with ⟨d, added, bounded⟩
    apply WrittenOut.of_bound? bounded
    exact (add_exponent_le (by decide) few lowest added).trans nonpositive
  | sub =>
    rcases settle_eq_ok_some done with ⟨d, subtracted, bounded⟩
    apply WrittenOut.of_bound? bounded
    exact (sub_exponent_le (by decide) few lowest subtracted).trans nonpositive
  | mul =>
    rcases settle_eq_ok_some done with ⟨d, multiplied, bounded⟩
    apply WrittenOut.of_bound? bounded
    have product : a.value.coefficient * b.value.coefficient < 10 ^ exactPrecision := by
      apply (Nat.mul_le_mul a.bounded.1 b.bounded.1).trans_lt
      norm_num [maxCoefficient, exactPrecision]
    have exponent := leastExponent_le (add_le_add a.bounded.2 b.bounded.2)
    exact (mul_exponent_le (by decide) product exponent multiplied).trans (add_nonpos left right)
  | div => exact absurd rfl noQuotient
  | rem =>
    have nonzero : ¬ b.value.isZero := by
      intro zero
      rw [show Amount.checked .rem a b = .ok none from if_pos zero] at done
      cases done
    rw [show Amount.checked .rem a b = _ from if_neg nonzero] at done
    rcases settle_eq_ok_some done with ⟨d, divided, bounded⟩
    apply WrittenOut.of_bound? bounded
    have dividend := (Nat.le_add_right _ _).trans_lt few
    exact (rem_exponent_le (by decide) dividend lowest divided).trans nonpositive

end WrittenOut

/-! ### Operations one after the other -/

/-- An operation on amounts that were there or were returned before, by their places. -/
structure Step where
  operation : Arithmetic
  left : Nat
  right : Nat

/-- What an operation adds to the amounts that there are. -/
def returned : Except Failure (Option Amount) → List Amount
  | .ok (some amount) => [amount]
  | _ => []

/-- The results of operations one after the other, each with its operation. What one returns can be
used by those behind it; an operation on an amount that is not there is left out. -/
def replies : List Amount → List Step → List (Arithmetic × Except Failure (Option Amount))
  | _, [] => []
  | known, step :: steps =>
    match known[step.left]?, known[step.right]? with
    | some a, some b =>
      (step.operation, checked step.operation a b) ::
        replies (known ++ returned (checked step.operation a b)) steps
    | _, _ => replies known steps

theorem replies_cons_of_some {known : List Amount} {step : Step} {a b : Amount}
    (left : known[step.left]? = some a) (right : known[step.right]? = some b) (steps : List Step) :
    replies known (step :: steps) =
      (step.operation, checked step.operation a b) ::
        replies (known ++ returned (checked step.operation a b)) steps := by
  rw [replies, left, right]

theorem replies_cons_of_none {known : List Amount} {step : Step}
    (missing : known[step.left]? = none ∨ known[step.right]? = none) (steps : List Step) :
    replies known (step :: steps) = replies known steps := by
  rcases missing with left | right
  · rw [replies, left]
  · rw [replies, right]
    cases known[step.left]? <;> rfl

theorem mem_returned {reply : Except Failure (Option Amount)} {amount : Amount} :
    amount ∈ returned reply ↔ reply = .ok (some amount) := by
  rcases reply with failure | _ | result <;> simp [returned, eq_comm]

/-- Every result is that of an operation on amounts of a kind, if it is the kind of those that were
there at first and of those that are returned for such. -/
theorem exists_operands (Kind : Amount → Prop) {known : List Amount} {steps : List Step}
    (first : ∀ amount ∈ known, Kind amount)
    (later : ∀ operation a b result, Kind a → Kind b →
      checked operation a b = .ok (some result) →
        (operation, .ok (some result)) ∈ replies known steps → Kind result)
    {operation : Arithmetic} {reply : Except Failure (Option Amount)}
    (member : (operation, reply) ∈ replies known steps) :
    ∃ a b, Kind a ∧ Kind b ∧ reply = checked operation a b := by
  induction steps generalizing known with
  | nil => cases member
  | cons step steps inductionHypothesis =>
    -- the amounts that are known are of the kind again behind the first operation
    by_cases missing : known[step.left]? = none ∨ known[step.right]? = none
    · rw [replies_cons_of_none missing] at member
      simp only [replies_cons_of_none missing] at later
      exact inductionHypothesis first later member
    · simp only [not_or, Option.ne_none_iff_exists'] at missing
      rcases missing with ⟨⟨a, left⟩, b, right⟩
      rw [replies_cons_of_some left right] at member
      simp only [replies_cons_of_some left right] at later
      have kindA := first a (List.mem_of_getElem? left)
      have kindB := first b (List.mem_of_getElem? right)
      rcases List.mem_cons.mp member with isFirst | behind
      · cases isFirst
        exact ⟨a, b, kindA, kindB, rfl⟩
      · apply inductionHypothesis ?_ ?_ behind
        · intro amount known
          rcases List.mem_append.mp known with before | added
          · exact first amount before
          · have done := mem_returned.mp added
            apply later _ a b amount kindA kindB done
            rw [done]
            exact List.mem_cons_self
        · intro operation a b result kindA kindB done returned
          exact later operation a b result kindA kindB done (List.mem_cons_of_mem _ returned)

/-! ### Runs -/

/-- Whether an amount was made of a text or of a count of stroops. -/
def Made (amount : Amount) : Prop :=
  (∃ text, parse text = .ok amount) ∨ ∃ stroops, amount = ofStroops stroops

theorem exponent_of_parse {text : String} {amount : Amount} (parsed : parse text = .ok amount) :
    amount.value.exponent = -stroopsScale := by
  unfold parse at parsed
  split at parsed
  · cases parsed
  · split_ifs at parsed
    split at parsed
    · cases parsed
    · rename_i padded isPadded
      split_ifs at parsed
      cases parsed
      unfold pad at isPadded
      simp only at isPadded
      split_ifs at isPadded
      cases isPadded
      exact truncateTo_exponent _ _

theorem Made.writtenOut {amount : Amount} (made : Made amount) : WrittenOut amount := by
  unfold WrittenOut
  rcases made with ⟨text, parsed⟩ | ⟨stroops, rfl⟩
  · rw [exponent_of_parse parsed]
    decide
  · exact (by decide : -(stroopsScale : Int) ≤ 0)

/-- Whether a result is none or in range, and not a failure. -/
def Conforms (reply : Except Failure (Option Amount)) : Prop :=
  ∃ amount?, reply = .ok amount? ∧ ∀ amount ∈ amount?, InRange amount.value.value

theorem Conforms.of_within {operation : Arithmetic} {a b : Amount}
    (left : |a.value.value| ≤ maxCoefficient) (right : |b.value.value| ≤ maxCoefficient)
    (result : ∀ amount, checked operation a b = .ok (some amount) →
      |amount.value.value| ≤ maxCoefficient) : Conforms (checked operation a b) := by
  rcases exists_checked left right operation with ⟨amount?, done⟩
  refine ⟨amount?, done, ?_⟩
  intro amount found
  cases found
  exact amount.inRange_iff.mpr (result amount done)

/-- The results of operations on amounts that were made are all in range, and none fails, if and
only if no number that is returned is too great; and this is so if no quotient leaves out zeros
before the point. -/
theorem replies_conform_iff
    {known : List Amount}
    (made : ∀ amount ∈ known, Made amount)
    (steps : List Step) :
    ((∀ entry ∈ replies known steps, Conforms entry.2) ↔
      ∀ (operation : Arithmetic) (result : Amount),
        (operation, .ok (some result)) ∈ replies known steps →
        |result.value.value| ≤ maxCoefficient) ∧
    ((∀ quotient : Amount, (.div, .ok (some quotient)) ∈ replies known steps →
      WrittenOut quotient) →
      ∀ entry ∈ replies known steps, Conforms entry.2) := by
  have first : ∀ amount ∈ known, WrittenOut amount := fun amount member =>
    (made amount member).writtenOut
  refine ⟨⟨?_, ?_⟩, ?_⟩
  · intro conform operation result returned
    rcases conform _ returned with ⟨amount?, same, inRange⟩
    cases same
    exact result.inRange_iff.mp (inRange result rfl)
  · intro within entry member
    rcases entry with ⟨operation, reply⟩
    obtain ⟨a, b, left, right, rfl⟩ :=
      exists_operands (fun amount => |amount.value.value| ≤ maxCoefficient)
      (fun amount known => (first amount known).abs_value_le)
      (fun operation _ _ result _ _ _ returned => within operation result returned) member
    apply Conforms.of_within left right
    intro result done
    rw [done] at member
    exact within operation result member
  · intro quotients entry member
    have later (operation : Arithmetic) (a b result : Amount) (left : WrittenOut a)
        (right : WrittenOut b)
        (done : checked operation a b = .ok (some result))
        (returned : (operation, .ok (some result)) ∈ replies known steps) : WrittenOut result := by
      by_cases isQuotient : operation = .div
      · subst isQuotient
        exact quotients result returned
      · exact left.checked right isQuotient done
    rcases entry with ⟨operation, reply⟩
    obtain ⟨a, b, left, right, rfl⟩ := exists_operands WrittenOut first later member
    apply Conforms.of_within left.abs_value_le right.abs_value_le
    intro result done
    rw [done] at member
    exact (later operation a b result left right done member).abs_value_le

/-- One unit, and the smallest part of it. -/
def unitAndStroop : List Amount :=
  [⟨⟨false, 10000000, -7⟩, by decide⟩, ofStroops ⟨1, by decide⟩]

/-- A unit is divided by a stroop, and what comes of it again. -/
def repeatedDivision : List Step :=
  [⟨.div, 0, 1⟩, ⟨.div, 2, 1⟩, ⟨.div, 3, 1⟩, ⟨.div, 4, 1⟩, ⟨.div, 5, 1⟩]

/-- After five divisions by a stroop a unit has become a number of 36 digits, which is returned
though it is out of range; products, differences and remainders of the two are in range. -/
theorem replies_conform_iff_repeatedDivision :
    (∀ amount ∈ unitAndStroop, Made amount) ∧
      (¬ ∀ entry ∈ replies unitAndStroop repeatedDivision, Conforms entry.2) ∧
      ∀ entry ∈ replies unitAndStroop [⟨.mul, 0, 1⟩, ⟨.sub, 2, 0⟩, ⟨.rem, 3, 2⟩],
      Conforms entry.2 := by
  have made : ∀ amount ∈ unitAndStroop, Made amount := by
    intro amount member
    rcases List.mem_pair.mp member with rfl | rfl
    · exact Or.inl ⟨"1", rfl⟩
    · exact Or.inr ⟨_, rfl⟩
  refine ⟨made, ?_, ?_⟩
  · intro conform
    have returned : (Arithmetic.div, Except.ok (some ⟨⟨false, 10000000, 28⟩, by decide⟩)) ∈
        replies unitAndStroop repeatedDivision :=
      List.mem_of_getElem? (i := 4) rfl
    have within := (replies_conform_iff made repeatedDivision).1.mp conform _ _ returned
    norm_num [Decimal.value, Decimal.signed, maxCoefficient] at within
  · apply (replies_conform_iff made _).2
    intro quotient returned
    have results : replies unitAndStroop [⟨.mul, 0, 1⟩, ⟨.sub, 2, 0⟩, ⟨.rem, 3, 2⟩] =
        [(.mul, _), (.sub, _), (.rem, _)] := rfl
    simp [results] at returned

end LedgerWire.Amount
