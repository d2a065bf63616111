import LedgerWire.Bytes.Base64
import LedgerWire.Proofs.Bytes.Radix
import LedgerWire.Proofs.Outcome

/-!
Contract: which texts are read as base 64, and which of these are written. A text that is read has
digits and then padding; the padding is fixed where the last group is short and free behind complete
groups, and bits of the last digit that belong to no byte may be anything. A text that is written
has no such freedom, so of all texts that are read as the same bytes it is the one that has the
padding it needs and zeros for the spare bits.

Owns:
- the texts that `Base64.decode` reads, as an equivalence;
- `Base64.Exact`, and that of all texts that are read as the same bytes just the one written is
  exact.

Does not own: why a text is refused.
-/

namespace LedgerWire.Base64

theorem regular_radix : radix.Regular where
  groupBits := rfl
  digitBits_pos := by decide
  digitBits_le := by decide
  groupBytes_pos := by decide

/-! ### The alphabet -/

theorem digitValue?_digitChar {digit : Nat} (below : digit < 64) :
    digitValue? (digitChar digit) = some digit := by
  have all : ∀ digit < 64, digitValue? (digitChar digit) = some digit := by decide
  exact all digit below

theorem digitChar_ne_padding {digit : Nat} (below : digit < 64) : digitChar digit ≠ '=' := by
  have all : ∀ digit < 64, digitChar digit ≠ '=' := by decide
  exact all digit below

theorem digitChar_ascii {digit : Nat} (below : digit < 64) : (digitChar digit).toNat < 0x80 := by
  have all : ∀ digit < 64, (digitChar digit).toNat < 0x80 := by decide
  exact all digit below

theorem digitChar_of_digitValue? {c : Char} {digit : Nat} (found : digitValue? c = some digit) :
    digit < 64 ∧ digitChar digit = c := by
  -- below 128 the alphabet is gone through; of the other characters none is in it
  have all : ∀ n < 0x80, ∀ digit ∈ digitValue? (Char.ofNat n), digit < 64 ∧
      digitChar digit = Char.ofNat n := by
    decide +kernel
  have ascii : c.toNat < 0x80 := by
    unfold digitValue? at found
    simp only [Bool.and_eq_true, decide_eq_true_eq, beq_iff_eq] at found
    split_ifs at found with upper lower numeral plus slash
    · exact lt_of_le_of_lt (UInt32.le_iff_toNat_le.mp upper.2) (by decide)
    · exact lt_of_le_of_lt (UInt32.le_iff_toNat_le.mp lower.2) (by decide)
    · exact lt_of_le_of_lt (UInt32.le_iff_toNat_le.mp numeral.2) (by decide)
    · subst plus
      decide
    · subst slash
      decide
  rw [← Char.ofNat_toNat c] at found ⊢
  exact all c.toNat ascii digit found

/-! ### Digits and padding -/

/-- Digits and padding as they stand in a text. -/
def spelled (digits : List Nat) (pads : Nat) : List Char :=
  digits.map digitChar ++ List.replicate pads '='

/-- The padding that a text of so many digits may end with. -/
def PaddingFits (count pads : Nat) : Prop :=
  count % 4 = 0 ∨ (count % 4 = 2 ∧ pads = 2) ∨ (count % 4 = 3 ∧ pads = 1)

/-- What is read of characters that follow `count` digits and `pads` padding characters: more
digits, as long as there is no padding, and padding with which the text may end. -/
def Continues (count pads : Nat) (chars : List Char) (digits : List Nat) : Prop :=
  ∃ more, chars = spelled digits more ∧ (∀ digit ∈ digits, digit < 64) ∧ (pads = 0 ∨ digits = []) ∧
    PaddingFits (count + digits.length) (pads + more)

section

variable {count pads : Nat} {rest : List Char} {digits : List Nat}

theorem continues_nil_iff :
    Continues count pads [] digits ↔ digits = [] ∧ PaddingFits count pads := by
  constructor
  · intro continues
    obtain ⟨more, same, -, -, fits⟩ := continues
    obtain ⟨noDigits, noPads⟩ := List.append_eq_nil_iff.mp same.symm
    obtain rfl : digits = [] := List.map_eq_nil_iff.mp noDigits
    obtain rfl : more = 0 := by simpa using noPads
    exact ⟨rfl, fits⟩
  · intro ended
    obtain ⟨rfl, fits⟩ := ended
    exact ⟨0, rfl, by simp, Or.inr rfl, fits⟩

theorem continues_padding_iff :
    Continues count pads ('=' :: rest) digits ↔ digits = [] ∧
      Continues count (pads + 1) rest [] := by
  constructor
  · intro continues
    obtain ⟨more, same, below, -, fits⟩ := continues
    cases digits with
    | nil =>
      cases more with
      | zero => cases same
      | succ more =>
        refine ⟨rfl, more, (List.cons.inj same).2, below, Or.inr rfl, ?_⟩
        rwa [Nat.add_assoc, Nat.add_comm 1]
    | cons digit digits =>
      have first : '=' = digitChar digit := (List.cons.inj same).1
      exact absurd first.symm (digitChar_ne_padding (below digit (by simp)))
  · intro continues
    obtain ⟨rfl, more, rfl, below, -, fits⟩ := continues
    exact ⟨more + 1, rfl, below, Or.inr rfl, by rwa [Nat.add_comm more, ← Nat.add_assoc]⟩

theorem continues_digit_iff {c : Char} (notPadding : c ≠ '=') :
    Continues count pads (c :: rest) digits ↔
      pads = 0 ∧ ∃ digit more, digitValue? c = some digit ∧ Continues (count + 1) 0 rest more ∧
        digit :: more = digits := by
  constructor
  · intro continues
    obtain ⟨more, same, below, first, fits⟩ := continues
    cases digits with
    | nil =>
      cases more with
      | zero => cases same
      | succ more => exact absurd (List.cons.inj same).1 notPadding
    | cons digit digits =>
      obtain ⟨rfl, rfl⟩ := List.cons.inj same
      obtain rfl : pads = 0 := first.resolve_right (by simp)
      refine ⟨rfl, digit, digits, digitValue?_digitChar (below digit (by simp)),
        ⟨more, rfl, ?_, Or.inl rfl, ?_⟩, rfl⟩
      · intro other member
        exact below other (by simp [member])
      · rwa [List.length_cons, Nat.add_comm digits.length, ← Nat.add_assoc] at fits
  · intro continues
    obtain ⟨rfl, digit, digits, found, ⟨more, rfl, below, -, fits⟩, rfl⟩ := continues
    obtain ⟨small, rfl⟩ := digitChar_of_digitValue? found
    refine ⟨more, rfl, List.forall_mem_cons.mpr ⟨small, below⟩, Or.inl rfl, ?_⟩
    rwa [List.length_cons, Nat.add_comm digits.length, ← Nat.add_assoc]

/-- Padding that fills up a short group ends the text. -/
theorem continues_complete_iff (short : 2 ≤ count % 4) (complete : count % 4 + pads = 4) :
    Continues count pads rest [] ↔ rest = [] := by
  constructor
  · intro continues
    obtain ⟨more, rfl, -, -, fits⟩ := continues
    unfold PaddingFits at fits
    rw [List.length_nil] at fits
    obtain rfl : more = 0 := by omega
    rfl
  · rintro rfl
    refine continues_nil_iff.mpr ⟨rfl, ?_⟩
    unfold PaddingFits
    omega

end

/-! ### Texts that are read -/

theorem scan_padding (count pads : Nat) (rest : List Char) :
    scan count pads ('=' :: rest) =
      if 2 ≤ count % 4 ∧ 4 ≤ count % 4 + (pads + 1) then
        if rest = [] then .ok [] else .error .dataAfterPadding
      else
        scan count (pads + 1) rest := by
  simp [scan]

theorem scan_digit (count pads : Nat) {c : Char} (notPadding : c ≠ '=') (rest : List Char) :
    scan count pads (c :: rest) =
      match digitValue? c with
      | none => .error .foreignCharacter
      | some digit =>
        if pads = 0 then (scan (count + 1) 0 rest).map (digit :: ·)
        else .error .digitAfterPadding := by
  rw [scan]
  exact if_neg (by simpa using notPadding)

/-- As long as padding has not ended the text, what is read is what the characters spell. -/
theorem scan_eq_ok_iff {count pads : Nat} {chars : List Char} {digits : List Nat}
    (goesOn : count % 4 < 2 ∨ count % 4 + pads < 4) :
    scan count pads chars = .ok digits ↔ Continues count pads chars digits := by
  induction chars generalizing count pads digits with
  | nil =>
    have fits : PaddingFits count pads ↔ count % 4 = 0 := by
      unfold PaddingFits
      omega
    rw [continues_nil_iff, fits, scan]
    split_ifs with whole lone
    · simp [whole, eq_comm]
    · simp [whole]
    · simp [whole]
  | cons c rest inductionHypothesis =>
    by_cases isPadding : c = '='
    · subst isPadding
      rw [scan_padding, continues_padding_iff]
      by_cases complete : 2 ≤ count % 4 ∧ 4 ≤ count % 4 + (pads + 1)
      · rw [if_pos complete, continues_complete_iff complete.1 (by omega)]
        split_ifs with ended
        · simp [ended, eq_comm]
        · simp [ended]
      · rw [if_neg complete, inductionHypothesis (by omega)]
        constructor
        · intro continues
          obtain rfl : digits = [] :=
            continues.choose_spec.2.2.1.resolve_left (Nat.succ_ne_zero pads)
          exact ⟨rfl, continues⟩
        · rintro ⟨rfl, continues⟩
          exact continues
    · rw [scan_digit count pads isPadding, continues_digit_iff isPadding]
      cases found : digitValue? c with
      | none => simp
      | some value =>
        by_cases noPads : pads = 0
        · have further : (scan (count + 1) 0 rest).map (value :: ·) = .ok digits ↔
              ∃ more, scan (count + 1) 0 rest = .ok more ∧ value :: more = digits :=
              Outcome.map_eq_ok_iff
          have goesOnFurther : (count + 1) % 4 < 2 ∨ (count + 1) % 4 + 0 < 4 := by omega
          simp only [noPads, if_true, further, inductionHypothesis goesOnFurther, true_and,
            Option.some.injEq]
          simp
        · simp [noPads]

theorem spelled_ascii {digits : List Nat} (below : ∀ digit ∈ digits, digit < 64) (pads : Nat) :
    ∀ c ∈ spelled digits pads, c.toNat < 0x80 := by
  intro c member
  rcases List.mem_append.mp member with isDigit | isPadding
  · obtain ⟨digit, inDigits, rfl⟩ := List.mem_map.mp isDigit
    exact digitChar_ascii (below digit inDigits)
  · obtain rfl := List.eq_of_mem_replicate isPadding
    decide

theorem head?_spelled {digits : List Nat} (below : ∀ digit ∈ digits, digit < 64) (pads : Nat) :
    (spelled digits pads).head? = some '=' ↔ digits = [] ∧ pads ≠ 0 := by
  cases digits with
  | nil => cases pads <;> simp [spelled, List.replicate_succ]
  | cons digit digits =>
    have first : (spelled (digit :: digits) pads).head? = some (digitChar digit) := rfl
    simp [first, digitChar_ne_padding (below digit (by simp))]

/-- A text that is read consists of digits and then padding that fits, and is not padding alone. -/
theorem decode_eq_ok_iff {text : String} {bytes : Bytes} :
    decode text = .ok bytes ↔
      ∃ digits pads, text.toList = spelled digits pads ∧ (∀ digit ∈ digits, digit < 64) ∧
        PaddingFits digits.length pads ∧ (digits = [] → pads = 0) ∧
        radix.bytesOf digits = bytes := by
  simp only [decode]
  constructor
  · intro read
    split_ifs at read with foreign leading
    obtain ⟨digits, scanned, isBytes⟩ := Outcome.map_eq_ok_iff.mp read
    obtain ⟨pads, same, below, -, fits⟩ := (scan_eq_ok_iff (Or.inl (by decide))).mp scanned
    rw [Nat.zero_add, Nat.zero_add] at fits
    refine ⟨digits, pads, same, below, fits, ?_, isBytes⟩
    intro noDigits
    by_contra somePads
    apply leading
    rw [same, (head?_spelled below pads).mpr ⟨noDigits, somePads⟩]
    rfl
  · intro spelling
    obtain ⟨digits, pads, same, below, fits, noneAlone, isBytes⟩ := spelling
    have scanned : scan 0 0 text.toList = .ok digits := by
      apply (scan_eq_ok_iff (Or.inl (by decide))).mpr
      exact ⟨pads, same, below, Or.inl rfl, by rwa [Nat.zero_add, Nat.zero_add]⟩
    rw [if_neg, if_neg, scanned, ← isBytes]
    · rfl
    · rw [beq_iff_eq, same, head?_spelled below]
      intro leading
      exact leading.2 (noneAlone leading.1)
    · rw [same]
      simpa using spelled_ascii below pads

/-! ### Texts that are written -/

/-- The padding of a text of so many digits that is written. -/
def neededPads (count : Nat) : Nat := (4 - count % 4) % 4

/-- Whether a text consists of digits without spare bits and of the padding that they need. -/
def Exact (text : String) : Prop :=
  ∃ digits, text.toList = spelled digits (neededPads digits.length) ∧
    (∀ digit ∈ digits, digit < 64) ∧
    digits.length % 4 ≠ 1 ∧ ∀ last ∈ digits.getLast?, 2 ^ (6 * digits.length % 8) ∣ last

theorem toList_encode (bytes : Bytes) :
    (encode bytes).toList =
      spelled (radix.digitsOf bytes) (neededPads (radix.digitsOf bytes).length) := by
  rw [encode, String.toList_ofList]
  rfl

theorem filterMap_spelled {digits : List Nat} (below : ∀ digit ∈ digits, digit < 64) (pads : Nat) :
    (spelled digits pads).filterMap digitValue? = digits := by
  have noDigit : digitValue? '=' = none := rfl
  have padding : (List.replicate pads '=').filterMap digitValue? = [] := by
    rw [List.filterMap_replicate_of_none noDigit]
  rw [spelled, List.filterMap_append, padding, List.append_nil, List.filterMap_map]
  induction digits with
  | nil => rfl
  | cons digit digits inductionHypothesis =>
    have first : (digitValue? ∘ digitChar) digit = some digit :=
      digitValue?_digitChar (below digit (by simp))
    rw [List.filterMap_cons_some first,
      inductionHypothesis (fun other member => below other (by simp [member]))]

theorem spelled_injective {left right : List Nat} {pads morePads : Nat}
    (leftBelow : ∀ digit ∈ left, digit < 64)
    (rightBelow : ∀ digit ∈ right, digit < 64) (same : spelled left pads = spelled right morePads) :
    left = right ∧ pads = morePads := by
  have digits := congrArg (List.filterMap digitValue?) same
  rw [filterMap_spelled leftBelow, filterMap_spelled rightBelow] at digits
  subst digits
  refine ⟨rfl, ?_⟩
  have lengths := congrArg List.length same
  simpa [spelled] using lengths

/-- So many digits hold no more than their bytes need, unless there is a lone one in the last
group. -/
theorem digitCount_byteCount {count : Nat} (notLone : count % 4 ≠ 1) :
    radix.digitCount (radix.byteCount count) = count := by
  have lastGroup : count % 4 = 0 ∨ count % 4 = 2 ∨ count % 4 = 3 := by omega
  simp only [Radix.digitCount, Radix.byteCount, radix]
  rcases lastGroup with whole | two | three <;> omega

/-- Of the texts that are read as the same bytes just the one that is written is exact. -/
theorem exact_iff_eq_encode {text : String} {bytes : Bytes} (read : decode text = .ok bytes) :
    Exact text ↔ text = encode bytes := by
  obtain ⟨digits, pads, same, below, fits, noneAlone, rfl⟩ := decode_eq_ok_iff.mp read
  have notLone : digits.length % 4 ≠ 1 := by
    unfold PaddingFits at fits
    omega
  have spare := regular_radix.digitsOf_bytesOf_iff below (digitCount_byteCount notLone)
  constructor
  · intro exact
    obtain ⟨others, sameOthers, othersBelow, -, noSpare⟩ := exact
    obtain ⟨rfl, rfl⟩ := spelled_injective below othersBelow (same.symm.trans sameOthers)
    apply String.toList_injective
    rw [toList_encode, spare.mpr noSpare, same]
  · intro written
    have sameText := toList_encode (radix.bytesOf digits)
    rw [← written, same] at sameText
    obtain ⟨sameDigits, -⟩ := spelled_injective below (radix.digitsOf_lt _) sameText
    rw [← sameDigits] at sameText
    exact ⟨digits, same.trans sameText, below, notLone, spare.mp sameDigits.symm⟩

theorem decode_encode (bytes : Bytes) : decode (encode bytes) = .ok bytes := by
  have count : (radix.digitsOf bytes).length = (8 * bytes.length + 6 - 1) / 6 :=
    regular_radix.length_digitsOf bytes
  refine decode_eq_ok_iff.mpr ⟨_, _, toList_encode bytes, radix.digitsOf_lt bytes, ?_, ?_,
    regular_radix.bytesOf_digitsOf bytes⟩
  · unfold PaddingFits neededPads
    omega
  · intro noDigits
    rw [noDigits]
    rfl

/-- A spare bit that is set, and padding behind a complete group, are read as if they were not
there. -/
example : decode "AB==" = decode "AA==" ∧ decode "AAAA=" = decode "AAAA" := by decide +kernel

end LedgerWire.Base64
