import LedgerWire.Operation.Builder
import LedgerWire.Proofs.Outcome
import Mathlib.Tactic.SplitIfs

/-!
Contract: what is known of a form whose fields are checked. The operation has the fields of its
kind, each as it stands in the form or as it is settled when it was left out.

Owns:
- the success of each check, as what then holds of the form;
- `Form.settled`, and the fields of what a form makes.

Does not own: how the fields were filled in.
-/

namespace LedgerWire

/-- The limits on options: weights are unsigned 32-bit numbers and the home domain is short. -/
structure SetOptions.LimitsKept (options : SetOptions) : Prop where
  masterWeight : ∀ n ∈ options.masterWeight, Wire.Integer.uint32.Fits n
  lowThreshold : ∀ n ∈ options.lowThreshold, Wire.Integer.uint32.Fits n
  mediumThreshold : ∀ n ∈ options.mediumThreshold, Wire.Integer.uint32.Fits n
  highThreshold : ∀ n ∈ options.highThreshold, Wire.Integer.uint32.Fits n
  homeDomain : ∀ domain ∈ options.homeDomain, Text.Utf8.size domain ≤ SetOptions.maxHomeDomainSize

/-- An operation has no fields but those of its kind. -/
theorem OperationBody.form_eq_none (body : OperationBody) {field : Field}
    (foreign : field ∉ body.kind.fields) : body.form field = none := by
  cases body <;>
    simp only [kind, OperationKind.fields, List.mem_cons, List.not_mem_nil, or_false,
      not_or] at foreign <;>
    simp [form, Form.setTerms, Form.setPathPayment, Form.setOfferId, Form.set_other,
      Form.blank, foreign]

namespace Form

variable {form : Form}

/-! ### Checks -/

theorem filled_of_require {field : Field} {message : String} {value : field.Value}
    (checked : form.require field message = .ok value) : form field = some value := by
  unfold require at checked
  cases stated : form field with
  | none =>
    rw [stated] at checked
    cases checked
  | some found =>
    rw [stated] at checked
    cases checked
    rfl

@[simp] theorem check_eq_ok_iff {condition : Prop} [Decidable condition] {message : String}
    {done : Unit} :
    check condition message = .ok done ↔ condition := by
  unfold check
  split_ifs with holds
  · simp [holds]
  · simp [holds]

theorem filled_of_offerTerms {amount : Except Failure Stroops} {label : String} {terms : OfferTerms}
    (checked : form.offerTerms amount label = .ok terms) :
    form .selling = some terms.selling ∧ form .buying = some terms.buying ∧
      amount = .ok terms.amount ∧ form .price = some terms.price := by
  simp only [offerTerms, Outcome.bind_eq_ok_iff, Outcome.pure_eq_ok_iff] at checked
  obtain ⟨_, selling, _, buying, _, amountRead, _, price, rfl⟩ := checked
  exact ⟨filled_of_require selling, filled_of_require buying, amountRead, filled_of_require price⟩

theorem filled_of_offerIdOf {label : String} {id : Option OfferId}
    (checked : form.offerIdOf label = .ok id) : form .offerId = id.map OfferId.value := by
  unfold offerIdOf at checked
  cases stated : form .offerId with
  | none =>
    rw [stated] at checked
    cases checked
    rfl
  | some number =>
    simp only [stated] at checked
    split_ifs at checked with negative
    have nonzero : number ≠ 0 := fun zero => negative (Int.le_of_eq zero)
    simp only [OfferId.ofInt?, dif_neg nonzero, Except.ok.injEq] at checked
    subst checked
    rfl

theorem filled_of_manageOffer {amount : Except Failure Stroops} {label : String}
    {offer : ManageOffer}
    (checked : form.manageOffer amount label = .ok offer) :
    (form .selling = some offer.terms.selling ∧ form .buying = some offer.terms.buying ∧
      amount = .ok offer.terms.amount ∧ form .price = some offer.terms.price) ∧
      form .offerId = offer.offerId.map OfferId.value := by
  simp only [manageOffer, Outcome.bind_eq_ok_iff, Outcome.pure_eq_ok_iff] at checked
  obtain ⟨_, terms, _, id, rfl⟩ := checked
  exact ⟨filled_of_offerTerms terms, filled_of_offerIdOf id⟩

theorem filled_of_pathPayment {sent received : Except Failure Stroops} {label : String}
    {payment : PathPayment} (checked : form.pathPayment sent received label = .ok payment) :
    (form .destination = some payment.destination ∧ form .sendAsset = some payment.sendAsset ∧
      sent = .ok payment.sendAmount ∧ form .destinationAsset = some payment.destinationAsset ∧
      received = .ok payment.destinationAmount ∧ form.path = payment.path) ∧
      payment.path.length ≤ PathPayment.maxPathLength := by
  simp only [pathPayment, Outcome.bind_eq_ok_iff, Outcome.pure_eq_ok_iff,
    check_eq_ok_iff] at checked
  obtain ⟨_, destination, _, sendAsset, _, sentRead, _, destinationAsset, _, receivedRead, _,
      short, rfl⟩ :=
    checked
  exact ⟨⟨filled_of_require destination, filled_of_require sendAsset, sentRead,
    filled_of_require destinationAsset, receivedRead, rfl⟩, short⟩

theorem fits_of_weight {stated checked : Option Int} {name : String}
    (passed : weight stated name = .ok checked) :
    checked = stated ∧ ∀ n ∈ stated, Wire.Integer.uint32.Fits n := by
  unfold weight at passed
  cases stated with
  | none =>
    cases passed
    exact ⟨rfl, fun _ found => nomatch found⟩
  | some number =>
    simp only at passed
    split_ifs at passed with fits
    cases passed
    refine ⟨rfl, ?_⟩
    intro n found
    cases found
    exact fits

theorem short_of_homeDomainOf {checked : Option String} (passed : form.homeDomainOf = .ok checked) :
    checked = form .homeDomain ∧
      ∀ domain ∈ checked, Text.Utf8.size domain ≤ SetOptions.maxHomeDomainSize := by
  unfold homeDomainOf at passed
  cases stated : form .homeDomain with
  | none =>
    rw [stated] at passed
    cases passed
    exact ⟨rfl, fun _ found => nomatch found⟩
  | some domain =>
    simp only [stated] at passed
    split_ifs at passed with short
    cases passed
    refine ⟨rfl, ?_⟩
    intro other found
    cases found
    exact short

theorem filled_of_trustLimit {limit : Option TrustLimit} (checked : form.trustLimit = .ok limit) :
    form .limit = limit.map TrustLimit.stroops := by
  unfold trustLimit at checked
  cases stated : form .limit with
  | none =>
    rw [stated] at checked
    cases checked
    rfl
  | some stroops =>
    simp only [stated] at checked
    split_ifs at checked with negative
    have nonzero : stroops.value ≠ 0 := by omega
    simp only [TrustLimit.ofStroops?, dif_neg nonzero, Except.ok.injEq] at checked
    subst checked
    rfl

theorem filled_of_setOptions {options : SetOptions} (checked : form.setOptions = .ok options) :
    options = {
      inflationDestination := form .inflationDestination
      clearFlags := form .clearAccountFlags
      setFlags := form .setAccountFlags
      masterWeight := form .masterWeight
      lowThreshold := form .lowThreshold
      mediumThreshold := form .mediumThreshold
      highThreshold := form .highThreshold
      homeDomain := form .homeDomain
      signer := form .signer } ∧
      options.LimitsKept := by
  simp only [setOptions, Outcome.bind_eq_ok_iff, Outcome.pure_eq_ok_iff] at checked
  obtain ⟨domain, domainRead, master, masterRead, low, lowRead, medium, mediumRead, high,
      highRead, rfl⟩ :=
    checked
  obtain ⟨rfl, masterFits⟩ := fits_of_weight masterRead
  obtain ⟨rfl, lowFits⟩ := fits_of_weight lowRead
  obtain ⟨rfl, mediumFits⟩ := fits_of_weight mediumRead
  obtain ⟨rfl, highFits⟩ := fits_of_weight highRead
  obtain ⟨rfl, short⟩ := short_of_homeDomainOf domainRead
  exact ⟨rfl, masterFits, lowFits, mediumFits, highFits, short⟩

theorem filled_of_setTrustLineFlags {flags : SetTrustLineFlags}
    (checked : form.setTrustLineFlags = .ok flags) :
    form .trustor = some flags.trustor ∧ form .asset = some flags.asset ∧
      flags.clearFlags = (form .clearLineFlags).getD TrustLineFlags.empty ∧
      flags.setFlags = (form .setLineFlags).getD TrustLineFlags.empty := by
  simp only [setTrustLineFlags, Outcome.bind_eq_ok_iff, Outcome.pure_eq_ok_iff] at checked
  obtain ⟨_, stated, _, trustor, _, asset, rfl⟩ := checked
  exact ⟨filled_of_require trustor, filled_of_require asset, rfl, rfl⟩

/-! ### Fields -/

/-- What an operation has for a field: a list that was left out is empty, and so are flags of a
trust line. -/
def settled (form : Form) : Form
  | .path => some form.path
  | .claimants => some form.claimants
  | .clearLineFlags => some ((form .clearLineFlags).getD TrustLineFlags.empty)
  | .setLineFlags => some ((form .setLineFlags).getD TrustLineFlags.empty)
  | field => form field

/-- Each field of a body is the one of the form that it was made of, as it is settled. -/
theorem form_of_toBody {kind : OperationKind} {body : OperationBody}
    (made : form.toBody kind = .ok body) :
    body.kind = kind ∧ ∀ field ∈ kind.fields, body.form field = form.settled field := by
  cases kind with
  | createAccount =>
    simp only [toBody, Outcome.bind_eq_ok_iff, Outcome.pure_eq_ok_iff] at made
    obtain ⟨_, destination, _, balance, rfl⟩ := made
    refine ⟨rfl, ?_⟩
    simp [OperationKind.fields, OperationBody.form, set_other, settled,
      filled_of_require destination, filled_of_require balance]
  | payment =>
    simp only [toBody, Outcome.bind_eq_ok_iff, Outcome.pure_eq_ok_iff] at made
    obtain ⟨_, destination, _, amount, _, asset, rfl⟩ := made
    refine ⟨rfl, ?_⟩
    simp [OperationKind.fields, OperationBody.form, set_other, settled,
      filled_of_require destination, filled_of_require amount, filled_of_require asset]
  | pathPaymentStrictReceive | pathPaymentStrictSend =>
    simp only [toBody, Outcome.map_eq_ok_iff] at made
    obtain ⟨_, payment, rfl⟩ := made
    obtain ⟨⟨destination, sendAsset, sent, destinationAsset, received, path⟩, -⟩ :=
      filled_of_pathPayment payment
    refine ⟨rfl, ?_⟩
    simp [OperationKind.fields, OperationBody.form, setPathPayment, set_other, settled, destination,
      sendAsset, filled_of_require sent, destinationAsset, filled_of_require received, path]
  | manageSellOffer | manageBuyOffer =>
    simp only [toBody, Outcome.map_eq_ok_iff] at made
    obtain ⟨_, offer, rfl⟩ := made
    obtain ⟨⟨selling, buying, amount, price⟩, id⟩ := filled_of_manageOffer offer
    refine ⟨rfl, ?_⟩
    simp [OperationKind.fields, OperationBody.form, setTerms, setOfferId, set_other, settled,
      selling, buying, filled_of_require amount, price, id]
  | createPassiveSellOffer =>
    simp only [toBody, Outcome.map_eq_ok_iff] at made
    obtain ⟨_, terms, rfl⟩ := made
    obtain ⟨selling, buying, amount, price⟩ := filled_of_offerTerms terms
    refine ⟨rfl, ?_⟩
    simp [OperationKind.fields, OperationBody.form, setTerms, set_other, settled, selling, buying,
      filled_of_require amount, price]
  | setOptions =>
    simp only [toBody, Outcome.map_eq_ok_iff] at made
    obtain ⟨_, options, rfl⟩ := made
    obtain ⟨rfl, -⟩ := filled_of_setOptions options
    refine ⟨rfl, ?_⟩
    simp [OperationKind.fields, OperationBody.form, set_other, settled]
  | changeTrust =>
    simp only [toBody, Outcome.bind_eq_ok_iff, Outcome.pure_eq_ok_iff] at made
    obtain ⟨_, line, _, limit, rfl⟩ := made
    refine ⟨rfl, ?_⟩
    simp [OperationKind.fields, OperationBody.form, set_other, settled, filled_of_require line,
      filled_of_trustLimit limit]
  | allowTrust =>
    simp only [toBody, Outcome.bind_eq_ok_iff, Outcome.pure_eq_ok_iff] at made
    obtain ⟨_, trustor, _, code, _, authorize, rfl⟩ := made
    refine ⟨rfl, ?_⟩
    simp [OperationKind.fields, OperationBody.form, set_other, settled, filled_of_require trustor,
      filled_of_require code, filled_of_require authorize]
  | accountMerge | claimClaimableBalance | beginSponsoring | revokeSponsorship
  | clawbackClaimableBalance =>
    simp only [toBody, Outcome.map_eq_ok_iff] at made
    obtain ⟨_, stated, rfl⟩ := made
    refine ⟨rfl, ?_⟩
    simp [OperationKind.fields, OperationBody.form, settled, filled_of_require stated]
  | inflation | endSponsoring =>
    simp only [toBody, Outcome.pure_eq_ok_iff] at made
    subst made
    refine ⟨rfl, ?_⟩
    simp [OperationKind.fields]
  | manageData =>
    simp only [toBody, Outcome.bind_eq_ok_iff, Outcome.pure_eq_ok_iff] at made
    obtain ⟨_, name, _, short, rfl⟩ := made
    refine ⟨rfl, ?_⟩
    simp [OperationKind.fields, OperationBody.form, set_other, settled, filled_of_require name]
  | bumpSequence =>
    simp only [toBody, Outcome.bind_eq_ok_iff, Outcome.pure_eq_ok_iff] at made
    obtain ⟨_, bumpTo, _, nonnegative, rfl⟩ := made
    refine ⟨rfl, ?_⟩
    simp [OperationKind.fields, OperationBody.form, settled, filled_of_require bumpTo]
  | createClaimableBalance =>
    simp only [toBody, Outcome.bind_eq_ok_iff, Outcome.pure_eq_ok_iff] at made
    obtain ⟨_, asset, _, amount, _, nonempty, _, few, rfl⟩ := made
    refine ⟨rfl, ?_⟩
    simp [OperationKind.fields, OperationBody.form, set_other, settled, filled_of_require asset,
      filled_of_require amount]
  | clawback =>
    simp only [toBody, Outcome.bind_eq_ok_iff, Outcome.pure_eq_ok_iff] at made
    obtain ⟨_, asset, _, holder, _, amount, rfl⟩ := made
    refine ⟨rfl, ?_⟩
    simp [OperationKind.fields, OperationBody.form, set_other, settled, filled_of_require asset,
      filled_of_require holder, filled_of_require amount]
  | setTrustLineFlags =>
    simp only [toBody, Outcome.map_eq_ok_iff] at made
    obtain ⟨_, flags, rfl⟩ := made
    obtain ⟨trustor, asset, clear, set⟩ := filled_of_setTrustLineFlags flags
    refine ⟨rfl, ?_⟩
    simp [OperationKind.fields, OperationBody.form, set_other, settled, trustor, asset, clear, set]
  | poolDeposit =>
    simp only [toBody, Outcome.bind_eq_ok_iff, Outcome.pure_eq_ok_iff] at made
    obtain ⟨_, pool, _, amountA, _, amountB, _, least, _, greatest, rfl⟩ := made
    refine ⟨rfl, ?_⟩
    simp [OperationKind.fields, OperationBody.form, set_other, settled, filled_of_require pool,
      filled_of_require amountA, filled_of_require amountB, filled_of_require least,
      filled_of_require greatest]
  | poolWithdraw =>
    simp only [toBody, Outcome.bind_eq_ok_iff, Outcome.pure_eq_ok_iff] at made
    obtain ⟨_, pool, _, amount, _, amountA, _, amountB, rfl⟩ := made
    refine ⟨rfl, ?_⟩
    simp [OperationKind.fields, OperationBody.form, set_other, settled, filled_of_require pool,
      filled_of_require amount, filled_of_require amountA, filled_of_require amountB]

end Form

end LedgerWire
