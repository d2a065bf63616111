import LedgerWire.Operation.Field

/-!
Contract: forms, which hold a value for some of the fields. A builder fills in a form before there
is an operation, and every operation has the form that says the same as it does.

Owns:
- `Form`, the setting and the reading of its fields;
- `OperationKind.fields` and `OperationBody.form`.

Does not own: which fields have to be filled before an operation can be built.
-/

namespace LedgerWire

/-- Fields, each with a value or empty. -/
def Form := (field : Field) → Option field.Value

namespace Form

def blank : Form := fun _ => none

/-- The form with one field filled or emptied. -/
def set (form : Form) (field : Field) (value : Option field.Value) : Form := fun other =>
  if h : other = field then h ▸ value else form other

@[simp] theorem set_same (form : Form) (field : Field) (value : Option field.Value) :
    form.set field value field = value := by
  simp [set]

theorem set_other (form : Form) {field other : Field} (value : Option field.Value)
    (different : other ≠ field) : form.set field value other = form other := by
  simp [set, different]

def require (form : Form) (field : Field) (message : String) : Except Failure field.Value :=
  match form field with
  | some value => .ok value
  | none => .error (Failure.operation message)

/-- The items of a list that starts empty. -/
def path (form : Form) : List Asset := (form .path).getD []

/-- The claimants named so far. -/
def claimants (form : Form) : List Claimant := (form .claimants).getD []

end Form

/-- The fields that operations of a kind have, next to their source. -/
def OperationKind.fields : OperationKind → List Field
  | .createAccount => [.newAccount, .startingBalance]
  | .payment => [.destination, .asset, .amount]
  | .pathPaymentStrictReceive =>
    [.destination, .sendAsset, .sendMax, .destinationAsset, .destinationAmount, .path]
  | .pathPaymentStrictSend =>
    [.destination, .sendAsset, .sendAmount, .destinationAsset, .destinationMin, .path]
  | .manageSellOffer => [.selling, .buying, .amount, .price, .offerId]
  | .manageBuyOffer => [.selling, .buying, .buyAmount, .price, .offerId]
  | .createPassiveSellOffer => [.selling, .buying, .amount, .price]
  | .setOptions => [
    .inflationDestination, .clearAccountFlags, .setAccountFlags, .masterWeight, .lowThreshold,
    .mediumThreshold, .highThreshold, .homeDomain, .signer]
  | .changeTrust => [.line, .limit]
  | .allowTrust => [.trustor, .assetCode, .authorize]
  | .accountMerge => [.destination]
  | .inflation | .endSponsoring => []
  | .manageData => [.dataName, .dataValue]
  | .bumpSequence => [.bumpTo]
  | .createClaimableBalance => [.asset, .amount, .claimants]
  | .claimClaimableBalance | .clawbackClaimableBalance => [.balanceId]
  | .beginSponsoring => [.sponsored]
  | .revokeSponsorship => [.revokeTarget]
  | .clawback => [.asset, .holder, .amount]
  | .setTrustLineFlags => [.trustor, .asset, .clearLineFlags, .setLineFlags]
  | .poolDeposit => [.poolId, .maxAmountA, .maxAmountB, .minPrice, .maxPrice]
  | .poolWithdraw => [.poolId, .amount, .minAmountA, .minAmountB]

namespace Form

/-- The form with the terms of an offer, whose amount stands in a field of the builder's kind. -/
def setTerms (form : Form) (terms : OfferTerms) : Form :=
  ((form.set .selling (some terms.selling)).set .buying (some terms.buying)).set
    .price (some terms.price)

/-- The form with a path payment, but for its two amounts. -/
def setPathPayment (form : Form) (body : PathPayment) : Form :=
  (((form.set .destination (some body.destination)).set .sendAsset (some body.sendAsset)).set
    .destinationAsset (some body.destinationAsset)).set .path (some body.path)

/-- The form with the id of an offer. -/
def setOfferId (form : Form) (offerId : Option OfferId) : Form :=
  form.set .offerId (offerId.map OfferId.value)

end Form

/-- The form of what is to be done: the fields of its kind, and no others. -/
def OperationBody.form : OperationBody → Form
  | .createAccount body =>
    (Form.blank.set .newAccount (some body.destination)).set
      .startingBalance (some body.startingBalance)
  | .payment body =>
    ((Form.blank.set .destination (some body.destination)).set .asset (some body.asset)).set
      .amount (some body.amount)
  | .pathPaymentStrictReceive body =>
    ((Form.blank.setPathPayment body).set .sendMax (some body.sendAmount)).set
      .destinationAmount (some body.destinationAmount)
  | .pathPaymentStrictSend body =>
    ((Form.blank.setPathPayment body).set .sendAmount (some body.sendAmount)).set
      .destinationMin (some body.destinationAmount)
  | .manageSellOffer body =>
    ((Form.blank.setTerms body.terms).set .amount (some body.terms.amount)).setOfferId body.offerId
  | .manageBuyOffer body =>
    ((Form.blank.setTerms body.terms).set .buyAmount (some body.terms.amount)).setOfferId
      body.offerId
  | .createPassiveSellOffer terms =>
    (Form.blank.setTerms terms).set .amount (some terms.amount)
  | .setOptions body =>
    ((((((((Form.blank.set .inflationDestination body.inflationDestination).set
      .clearAccountFlags body.clearFlags).set
      .setAccountFlags body.setFlags).set
      .masterWeight body.masterWeight).set
      .lowThreshold body.lowThreshold).set
      .mediumThreshold body.mediumThreshold).set
      .highThreshold body.highThreshold).set
      .homeDomain body.homeDomain).set
      .signer body.signer
  | .changeTrust body =>
    (Form.blank.set .line (some body.line)).set .limit (body.limit.map TrustLimit.stroops)
  | .allowTrust body =>
    ((Form.blank.set .trustor (some body.trustor)).set .assetCode (some body.code)).set
      .authorize (some body.authorize)
  | .accountMerge destination => Form.blank.set .destination (some destination)
  | .inflation | .endSponsoring => Form.blank
  | .manageData body =>
    (Form.blank.set .dataName (some body.name)).set .dataValue body.value
  | .bumpSequence bumpTo => Form.blank.set .bumpTo (some bumpTo)
  | .createClaimableBalance body =>
    ((Form.blank.set .asset (some body.asset)).set .amount (some body.amount)).set
      .claimants (some body.claimants)
  | .claimClaimableBalance id | .clawbackClaimableBalance id =>
    Form.blank.set .balanceId (some id)
  | .beginSponsoring sponsored => Form.blank.set .sponsored (some sponsored)
  | .revokeSponsorship target => Form.blank.set .revokeTarget (some target)
  | .clawback body =>
    ((Form.blank.set .asset (some body.asset)).set .holder (some body.holder)).set
      .amount (some body.amount)
  | .setTrustLineFlags body =>
    (((Form.blank.set .trustor (some body.trustor)).set .asset (some body.asset)).set
      .clearLineFlags (some body.clearFlags)).set .setLineFlags (some body.setFlags)
  | .poolDeposit body =>
    ((((Form.blank.set .poolId (some body.pool)).set .maxAmountA (some body.maxAmountA)).set
      .maxAmountB (some body.maxAmountB)).set .minPrice (some body.minPrice)).set
      .maxPrice (some body.maxPrice)
  | .poolWithdraw body =>
    (((Form.blank.set .poolId (some body.pool)).set .amount (some body.amount)).set
      .minAmountA (some body.minAmountA)).set .minAmountB (some body.minAmountB)

def Operation.form (operation : Operation) : Form :=
  operation.body.form.set .source operation.source

end LedgerWire
