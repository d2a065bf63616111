import LedgerWire.Proofs.Building.Calls
import LedgerWire.Proofs.Transaction.Encoding

/-!
Contract: what comes of calls on a transaction builder. What was entered stands in the builder until
it is built, but for operations behind a fault, and the first attempt to build is answered by the
first of its conditions that is broken or by the transaction.

Owns:
- `TransactionBuilder.construction`, and what entries are about: `operationsOf`, `lastMemo`,
  `lastTimeBounds`;
- `FirstReply`, the reply to the first attempt to build, by the base fee and the entries;
- the replies to every sequence of calls.

Does not own: whether the transaction can be written.
-/

namespace LedgerWire.TransactionBuilder

open Wire

/-- How transactions are built. -/
def construction : Construction TransactionBuilder Entry (Signed Transaction) where
  enter := enter
  build := build
  consumed := TransactionBuilder.consumed
  refusal := fun _ => Failure.plain .builderConsumed

/-! ### Entries -/

namespace Entry

def operation? : Entry → Option Operation
  | .addOperation operation => some operation
  | _ => none

def memo? : Entry → Option Memo
  | .setMemo memo => some memo
  | _ => none

def timeBounds? : Entry → Option TimeBounds
  | .setTimeBounds bounds => some bounds
  | _ => none

end Entry

/-- The operations that were added, in their order. -/
def operationsOf (entries : List Entry) : List Operation := entries.filterMap Entry.operation?

/-- The memo that was set last, if any was. -/
def lastMemo (entries : List Entry) : Memo := (latest Entry.memo? entries).getD .absent

/-- The time bounds that were set last, if any were. -/
def lastTimeBounds (entries : List Entry) : Option TimeBounds := latest Entry.timeBounds? entries

theorem operationsOf_concat (entries : List Entry) (entry : Entry) :
    operationsOf (entries ++ [entry]) = operationsOf entries ++ entry.operation?.toList :=
  filterMap_concat Entry.operation? entries entry

theorem lastMemo_concat (entries : List Entry) (entry : Entry) :
    lastMemo (entries ++ [entry]) = entry.memo?.getD (lastMemo entries) := by
  rw [lastMemo, lastMemo, latest_concat]
  cases entry.memo? with
  | none => rfl
  | some memo => rfl

theorem lastTimeBounds_concat (entries : List Entry) (entry : Entry) :
    lastTimeBounds (entries ++ [entry]) = entry.timeBounds?.or (lastTimeBounds entries) :=
  latest_concat Entry.timeBounds? entries entry

/-! ### What a builder holds -/

/-- The operations that a builder keeps of those that were added. -/
def kept (baseFee : Stroops) (operations : List Operation) : List Operation :=
  if baseFee.value < Stroops.leastBaseFee then [] else operations.take Transaction.maxOperations

/-- The fault that a builder notes, for its base fee or for the operations that were added. -/
def noted (baseFee : Stroops) (operations : List Operation) : Option Failure :=
  if baseFee.value < Stroops.leastBaseFee then some (feeTooLow baseFee)
  else if Transaction.maxOperations < operations.length then some tooManyOperations
  else none

variable (source : MuxedAccount) (sequence : Int) (baseFee : Stroops)

/-- The builder with everything that was entered, not used up yet. -/
def filled (entries : List Entry) : TransactionBuilder where
  source := source
  sequence := sequence
  baseFee := baseFee
  timeBounds := lastTimeBounds entries
  memo := lastMemo entries
  operations := kept baseFee (operationsOf entries)
  fault := noted baseFee (operationsOf entries)
  consumed := false

theorem filled_nil : filled source sequence baseFee [] = start source sequence baseFee := by
  simp [filled, start, kept, noted, lastTimeBounds, lastMemo, operationsOf]

/-- Three cases: a fee that is too low drops every operation, a full builder notes the one too many,
and any other builder takes one more. -/
theorem add_filled (entries : List Entry) (operation : Operation) :
    (filled source sequence baseFee entries).add operation =
      filled source sequence baseFee (entries ++ [.addOperation operation]) := by
  simp only [filled, operationsOf_concat, lastMemo_concat, lastTimeBounds_concat, Entry.operation?,
    Entry.memo?, Entry.timeBounds?, Option.toList_some, Option.getD_none, Option.none_or]
  by_cases low : baseFee.value < Stroops.leastBaseFee
  · simp [add, noted, kept, low]
  · by_cases room : (operationsOf entries).length < Transaction.maxOperations
    · have before : ¬ Transaction.maxOperations < (operationsOf entries).length := by omega
      have behind : ¬ Transaction.maxOperations < (operationsOf entries).length + 1 := by omega
      simp [add, noted, kept, low, room, before, behind, List.take_of_length_le, Nat.le_of_lt room,
        Nat.succ_le_of_lt room]
    · by_cases full : (operationsOf entries).length = Transaction.maxOperations
      · simp [add, noted, kept, low, full]
      · have before : Transaction.maxOperations < (operationsOf entries).length := by omega
        simp [add, noted, kept, low, before, List.take_append_of_le_length,
          Nat.le_of_lt before, Nat.lt_succ_of_lt before]

theorem run_enter_filled (entries : List Entry) (entry : Entry) :
    (enter entry).run (filled source sequence baseFee entries) =
      .ok () (filled source sequence baseFee (entries ++ [entry])) := by
  cases entry with
  | addOperation operation =>
    rw [← add_filled]
    rfl
  | setMemo memo =>
    simp only [filled, operationsOf_concat, lastMemo_concat, lastTimeBounds_concat]
    simp only [Entry.operation?, Option.toList_none, List.append_nil]
    rfl
  | setTimeBounds bounds =>
    simp only [filled, operationsOf_concat, lastMemo_concat, lastTimeBounds_concat]
    simp only [Entry.operation?, Option.toList_none, List.append_nil]
    rfl

/-- Every entry is taken, also behind a fault. The induction is from the end, as the builder holds
what was entered before. -/
theorem replies_entries (entries : List Entry) :
    construction.replies (start source sequence baseFee) (entries.map .enter) =
        entries.map (fun _ => .entered) ∧
      construction.after (start source sequence baseFee) (entries.map .enter) =
        filled source sequence baseFee entries := by
  induction entries using List.reverseRecOn with
  | nil => exact ⟨rfl, (filled_nil source sequence baseFee).symm⟩
  | append_singleton entries entry inductionHypothesis =>
    obtain ⟨repliesBefore, afterBefore⟩ := inductionHypothesis
    have entered : construction.call (filled source sequence baseFee entries) (.enter entry) =
        (.entered, filled source sequence baseFee (entries ++ [entry])) :=
      Construction.call_enter_of_ok (run_enter_filled source sequence baseFee entries entry)
    rw [List.map_append, List.map_append]
    constructor
    · rw [Construction.replies_append, repliesBefore, afterBefore]
      simp [Construction.replies, entered]
    · rw [Construction.after_append, afterBefore]
      simp [entered]

/-! ### Building -/

theorem run_build_of_unused {builder : TransactionBuilder} (unused : builder.consumed = false) :
    build.run builder =
      match builder.toTransaction with
      | .ok tx => .ok (Signed.unsigned tx) { builder with consumed := true }
      | .error failure => .error failure { builder with consumed := true } := by
  obtain ⟨source, sequence, baseFee, timeBounds, memo, operations, fault, consumed⟩ := builder
  subst unused
  change (match toTransaction
    ⟨source, sequence, baseFee, timeBounds, memo, operations, fault, false⟩ with
    | .ok tx => pure (Signed.unsigned tx)
    | .error failure => throw failure : Assembling (Signed Transaction)).run _ = _
  cases toTransaction ⟨source, sequence, baseFee, timeBounds, memo, operations, fault, false⟩ with
  | ok tx => rfl
  | error failure => rfl

theorem run_build_of_consumed {builder : TransactionBuilder} (used : builder.consumed = true) :
    build.run builder = .error (Failure.plain .builderConsumed) builder := by
  obtain ⟨source, sequence, baseFee, timeBounds, memo, operations, fault, consumed⟩ := builder
  subst used
  rfl

theorem run_enter_of_consumed {builder : TransactionBuilder} (used : builder.consumed = true)
    (entry : Entry) :
    (enter entry).run builder = .error (Failure.plain .builderConsumed) builder := by
  obtain ⟨source, sequence, baseFee, timeBounds, memo, operations, fault, consumed⟩ := builder
  subst used
  rfl

theorem consumed_add (builder : TransactionBuilder) (operation : Operation) :
    (builder.add operation).consumed = builder.consumed := by
  unfold add
  split
  · rfl
  · split <;> rfl

theorem run_enter_of_unused {builder : TransactionBuilder} (unused : builder.consumed = false)
    (entry : Entry) :
    ∃ after, (enter entry).run builder = .ok () after ∧ after.consumed = false := by
  obtain ⟨source, sequence, baseFee, timeBounds, memo, operations, fault, consumed⟩ := builder
  subst unused
  cases entry with
  | setMemo memo => exact ⟨_, rfl, rfl⟩
  | setTimeBounds bounds => exact ⟨_, rfl, rfl⟩
  | addOperation operation => exact ⟨_, rfl, consumed_add _ operation⟩

/-- A builder that was used up takes nothing and builds nothing. -/
theorem singleUse_construction : construction.SingleUse where
  enter_keeps builder entry := by
    cases used : builder.consumed with
    | true =>
      rw [Construction.call_enter_of_error (run_enter_of_consumed used entry)]
    | false =>
      obtain ⟨after, run, unused⟩ := run_enter_of_unused used entry
      rw [Construction.call_enter_of_ok run]
      exact unused.trans used.symm
  build_consumes builder := by
    cases used : builder.consumed with
    | true =>
      rw [Construction.call_build_of_error (run_build_of_consumed used)]
      exact used
    | false =>
      have run := run_build_of_unused used
      cases made : builder.toTransaction with
      | ok tx =>
        rw [made] at run
        rw [Construction.call_build_of_ok run]
        rfl
      | error failure =>
        rw [made] at run
        rw [Construction.call_build_of_error run]
        rfl
  reply_of_consumed builder call used := by
    cases call with
    | enter entry =>
      rw [Construction.call_enter_of_error (run_enter_of_consumed used entry)]
      rfl
    | build =>
      rw [Construction.call_build_of_error (run_build_of_consumed used)]
      rfl

/-- The reply to the first attempt to build. -/
inductive FirstReply (entries : List Entry) : Reply (Signed Transaction) → Prop
  /-- The base fee is too low, whatever else is wrong. -/
  | feeTooLow (low : baseFee.value < 100) :
      FirstReply entries (.refused (feeTooLow baseFee))
  | tooManyOperations (paid : 100 ≤ baseFee.value) (many : 100 < (operationsOf entries).length) :
      FirstReply entries (.refused tooManyOperations)
  | missingOperations (paid : 100 ≤ baseFee.value) (empty : operationsOf entries = []) :
      FirstReply entries (.refused (Failure.plain .missingOperations))
  | feeOverflow (paid : 100 ≤ baseFee.value) (added : operationsOf entries ≠ [])
      (few : (operationsOf entries).length ≤ 100)
      (overflow : 2 ^ 32 - 1 < baseFee.value * (operationsOf entries).length) :
      FirstReply entries (.refused (feeOverflow baseFee (operationsOf entries).length))
  /-- The transaction has the operations that were added, the memo and time bounds that were set
  last, and no signatures. -/
  | built (paid : 100 ≤ baseFee.value) (added : 1 ≤ (operationsOf entries).length)
      (few : (operationsOf entries).length ≤ 100) (fee : Stroops)
      (total : fee.value = baseFee.value * (operationsOf entries).length)
      (least : 100 * ((operationsOf entries).length : Int) ≤ fee.value)
      (greatest : fee.value ≤ 2 ^ 32 - 1) :
      FirstReply entries (.built {
        content := {
          source := source
          sequence := sequence
          fee := fee
          timeBounds := lastTimeBounds entries
          memo := lastMemo entries
          operations := operationsOf entries }
        signatures := [] })

theorem exists_totalFee {builder : TransactionBuilder} (nonnegative : 0 ≤ builder.baseFee.value)
    (fits : builder.baseFee.value * builder.operations.length ≤ 2 ^ 32 - 1) :
    ∃ fee, builder.totalFee = .ok fee ∧
      fee.value = builder.baseFee.value * builder.operations.length := by
  have productNonnegative :=
    Int.mul_nonneg nonnegative (Int.natCast_nonneg builder.operations.length)
  have inRange : Integer.int64.Fits (builder.baseFee.value * builder.operations.length) := by
    simp only [Integer.Fits, Integer.least, Integer.greatest]
    omega
  refine ⟨⟨_, inRange⟩, ?_, rfl⟩
  simp only [totalFee, Stroops.ofInt?, dif_pos inRange]
  exact if_pos fits

theorem totalFee_of_overflow {builder : TransactionBuilder}
    (overflow : 2 ^ 32 - 1 < builder.baseFee.value * builder.operations.length) :
    builder.totalFee = .error (feeOverflow builder.baseFee builder.operations.length) := by
  rw [totalFee, Stroops.ofInt?]
  by_cases inRange : Integer.int64.Fits (builder.baseFee.value * builder.operations.length)
  · rw [dif_pos inRange]
    exact if_neg (Int.not_le.mpr overflow)
  · rw [dif_neg inRange]

theorem toTransaction_of_fault {builder : TransactionBuilder} {fault : Failure}
    (noted : builder.fault = some fault) : builder.toTransaction = .error fault := by
  rw [toTransaction, noted]

theorem toTransaction_of_nil {builder : TransactionBuilder} (faultless : builder.fault = none)
    (empty : builder.operations = []) :
    builder.toTransaction = .error (Failure.plain .missingOperations) := by
  rw [toTransaction, faultless, empty]
  rfl

theorem toTransaction_of_ne_nil {builder : TransactionBuilder} (faultless : builder.fault = none)
    (nonempty : builder.operations ≠ []) :
    builder.toTransaction = builder.totalFee.map fun fee => {
      source := builder.source
      sequence := builder.sequence
      fee := fee
      timeBounds := builder.timeBounds
      memo := builder.memo
      operations := builder.operations } := by
  have filledIn : builder.operations.isEmpty = false := by simpa using nonempty
  simp only [toTransaction, faultless, filledIn]
  cases builder.totalFee with
  | ok fee => rfl
  | error failure => rfl

theorem call_build_of_toTransaction {builder : TransactionBuilder}
    (unused : builder.consumed = false) :
    (construction.call builder .build).1 =
      match builder.toTransaction with
      | .ok tx => .built (Signed.unsigned tx)
      | .error failure => .refused failure := by
  have run := run_build_of_unused unused
  cases made : builder.toTransaction with
  | ok tx =>
    rw [made] at run
    rw [Construction.call_build_of_ok run]
  | error failure =>
    rw [made] at run
    rw [Construction.call_build_of_error run]

/-- The cases are the conditions in the order in which they are looked at. -/
theorem firstReply_filled (entries : List Entry) :
    FirstReply source sequence baseFee entries
      (construction.call (filled source sequence baseFee entries) .build).1 := by
  rw [call_build_of_toTransaction rfl]
  let builder := filled source sequence baseFee entries
  by_cases low : baseFee.value < 100
  · have fault : builder.fault = some (feeTooLow baseFee) := if_pos low
    rw [toTransaction_of_fault fault]
    exact .feeTooLow low
  have paid := Int.not_lt.mp low
  by_cases many : 100 < (operationsOf entries).length
  · have fault : builder.fault = some tooManyOperations := (if_neg low).trans (if_pos many)
    rw [toTransaction_of_fault fault]
    exact .tooManyOperations paid many
  have few := Nat.not_lt.mp many
  have faultless : builder.fault = none := (if_neg low).trans (if_neg many)
  have allKept : builder.operations = operationsOf entries :=
    (if_neg low).trans (List.take_of_length_le few)
  by_cases empty : operationsOf entries = []
  · rw [toTransaction_of_nil faultless (allKept.trans empty)]
    exact .missingOperations paid empty
  rw [toTransaction_of_ne_nil faultless (allKept ▸ empty)]
  by_cases overflow : 2 ^ 32 - 1 < baseFee.value * (operationsOf entries).length
  · rw [totalFee_of_overflow (allKept ▸ overflow), allKept]
    exact .feeOverflow paid empty few overflow
  · have nonnegative : 0 ≤ builder.baseFee.value := Int.le_trans (by decide) paid
    obtain ⟨fee, counted, total⟩ :=
      exists_totalFee nonnegative (allKept ▸ Int.not_lt.mp overflow)
    rw [allKept] at total
    rw [counted, allKept]
    have added := List.length_pos_of_ne_nil empty
    exact .built paid added few fee total (total ▸ Int.mul_le_mul_of_nonneg_right paid (by omega))
      (total ▸ Int.not_lt.mp overflow)

/-- Only the first attempt to build can give a transaction. -/
theorem exists_firstReply_of_built {calls : List (Call Entry)} {built : Signed Transaction}
    (member : .built built ∈ construction.replies (start source sequence baseFee) calls) :
    ∃ entries, FirstReply source sequence baseFee entries (.built built) := by
  rcases Call.split calls with ⟨entries, rfl⟩ | ⟨entries, later, rfl⟩
  · rw [(replies_entries source sequence baseFee entries).1] at member
    obtain ⟨_, -, entered⟩ := List.mem_map.mp member
    cases entered
  · obtain ⟨repliesBefore, afterBefore⟩ := replies_entries source sequence baseFee entries
    rw [singleUse_construction.replies_first_build, repliesBefore, afterBefore] at member
    rcases List.mem_append.mp member with early | rest
    · obtain ⟨_, -, entered⟩ := List.mem_map.mp early
      cases entered
    · rcases List.mem_cons.mp rest with first | late
      · exact ⟨entries, first ▸ firstReply_filled source sequence baseFee entries⟩
      · obtain ⟨call, -, refused⟩ := List.mem_map.mp late
        have unbuilt : (construction.spent call).isBuilt = false := Construction.isBuilt_spent call
        rw [refused] at unbuilt
        cases unbuilt

theorem new_eq_ok_iff {givenSource : AccountSource} {givenFee : StroopsSource} {sequence : Int}
    {builder : TransactionBuilder} :
    new givenSource sequence givenFee = .ok builder ↔
      ∃ source baseFee, givenSource.toAccount = .ok source ∧ givenFee.toStroops = .ok baseFee ∧
        builder = start source sequence baseFee := by
  simp only [new, Outcome.bind_eq_ok_iff, Outcome.pure_eq_ok_iff]
  constructor
  · intro made
    obtain ⟨source, foundSource, baseFee, foundFee, rfl⟩ := made
    exact ⟨source, baseFee, foundSource, foundFee, rfl⟩
  · intro made
    obtain ⟨source, baseFee, foundSource, foundFee, rfl⟩ := made
    exact ⟨source, foundSource, baseFee, foundFee, rfl⟩

/-- Every sequence of calls on a new builder, whatever source, sequence number and base fee it was
made for: something is built at most once; as long as nothing is to be built every call is taken;
and the first attempt to build is answered as the base fee and the entries before it say, and
everything behind it by the failure that the builder was used up. -/
theorem replies_new
    {givenSource : AccountSource}
    {givenFee : StroopsSource}
    {sequence : Int}
    {builder : TransactionBuilder}
    (started : new givenSource sequence givenFee = .ok builder)
    (calls : List (Call Entry)) :
    ∃ source baseFee, givenSource.toAccount = .ok source ∧ givenFee.toStroops = .ok baseFee ∧
      (construction.replies builder calls).countP Reply.isBuilt ≤ 1 ∧
      (∀ entries : List Entry, calls = entries.map .enter →
        construction.replies builder calls = entries.map fun _ => .entered) ∧
      ∀ (entries : List Entry) (later : List (Call Entry)),
        calls = entries.map .enter ++ .build :: later →
          ∃ reply, FirstReply source sequence baseFee entries reply ∧
            construction.replies builder calls =
              entries.map (fun _ => .entered) ++
                reply :: later.map fun _ => .refused (Failure.plain .builderConsumed) := by
  obtain ⟨source, baseFee, foundSource, foundFee, rfl⟩ := new_eq_ok_iff.mp started
  refine ⟨source, baseFee, foundSource, foundFee,
    singleUse_construction.countP_isBuilt_le_one calls, ?_, ?_⟩
  · intro entries split
    rw [split]
    exact (replies_entries source sequence baseFee entries).1
  · intro entries later split
    obtain ⟨repliesBefore, afterBefore⟩ := replies_entries source sequence baseFee entries
    refine ⟨_, firstReply_filled source sequence baseFee entries, ?_⟩
    rw [split, singleUse_construction.replies_first_build, repliesBefore, afterBefore]
    congr 2
    refine List.map_congr_left fun call _ => ?_
    cases call with
    | enter entry => rfl
    | build => rfl

/-- A base fee of which one operation costs less than the greatest fee, and two cost more. -/
theorem replies_new_half :
    let source : AccountSource := .account Transaction.inflation.source
    let fee : StroopsSource := .integer (2 ^ 31)
    let inflation : Entry := .addOperation ⟨none, .inflation⟩
    ∃ builder, new source 5 fee = .ok builder ∧
      (∃ built, construction.replies builder [.enter inflation, .build, .build] =
          [.entered, .built built, .refused (Failure.plain .builderConsumed)] ∧
        built.content.fee.value = 2 ^ 31 ∧ built.signatures = []) ∧
      construction.replies builder [.enter inflation, .enter inflation, .build, .enter inflation] =
        [.entered, .entered, .refused (feeOverflow ⟨2 ^ 31, by decide⟩ 2),
          .refused (Failure.plain .builderConsumed)] := by
  intro source fee inflation
  have started : new source 5 fee =
      .ok (start Transaction.inflation.source 5 ⟨2 ^ 31, by decide⟩) := rfl
  refine ⟨_, started, ?_, ?_⟩
  · obtain ⟨_, baseFee, foundSource, foundFee, -, -, first⟩ :=
      replies_new started [.enter inflation, .build, .build]
    cases foundFee
    obtain ⟨reply, firstReply, replies⟩ := first [inflation] [.build] rfl
    cases firstReply with
    | built paid added few fee total least greatest => exact ⟨_, replies, total, rfl⟩
    | feeTooLow low => exact absurd low (by decide)
    | tooManyOperations paid many => exact absurd many (by decide)
    | missingOperations paid empty => exact absurd empty (by decide)
    | feeOverflow paid added few overflow => exact absurd overflow (by decide)
  · obtain ⟨_, baseFee, foundSource, foundFee, -, -, first⟩ :=
      replies_new started [.enter inflation, .enter inflation, .build, .enter inflation]
    cases foundFee
    obtain ⟨reply, firstReply, replies⟩ := first [inflation, inflation] [.enter inflation] rfl
    cases firstReply with
    | built paid added few fee total least greatest =>
      exact absurd (total ▸ greatest) (by decide)
    | feeTooLow low => exact absurd low (by decide)
    | tooManyOperations paid many => exact absurd many (by decide)
    | missingOperations paid empty => exact absurd empty (by decide)
    | feeOverflow paid added few overflow => exact replies

end LedgerWire.TransactionBuilder
