import LedgerWire.Operation.Form

/-!
Contract: building an operation of a kind by filling in fields one at a time, in any order, and then
building once. A call that fails tells why. What is given is looked at first, and only then whether
the builder was used already; fields are checked together at the end, in the order in which faults
of several fields are reported.

Owns:
- `Builder`, the calls on it and what each does;
- the checks of each kind, and the operation that the fields make.

Does not own: the conversion of what is given for a field.
-/

namespace LedgerWire

namespace Form

/-! ### Checks -/

/-- Fails, in the given words, unless a condition holds. -/
def check (condition : Prop) [Decidable condition] (message : String) : Except Failure Unit :=
  if condition then .ok () else .error (Failure.operation message)

/-- The terms of an offer, whose amount stands in the given field. -/
def offerTerms (form : Form) (amount : Except Failure Stroops) (label : String) :
    Except Failure OfferTerms := do
  let selling ← form.require .selling s!"missing {label} selling asset"
  let buying ← form.require .buying s!"missing {label} buying asset"
  let amount ← amount
  let price ← form.require .price s!"missing {label} price"
  return ⟨selling, buying, amount, price⟩

/-- The id of an offer, which is positive if stated. -/
def offerIdOf (form : Form) (label : String) : Except Failure (Option OfferId) :=
  match form .offerId with
  | none => .ok none
  | some n =>
    if n ≤ 0 then .error (Failure.operation s!"{label} offer_id must be positive")
    else .ok (OfferId.ofInt? n)

/-- An offer of a builder's fields. -/
def manageOffer (form : Form) (amount : Except Failure Stroops) (label : String) :
    Except Failure ManageOffer := do
  let terms ← form.offerTerms amount label
  return ⟨terms, ← form.offerIdOf label⟩

/-- A path payment of a builder's fields, its two amounts standing in the given fields. -/
def pathPayment
    (form : Form)
    (sent received : Except Failure Stroops)
    (label : String) : Except Failure PathPayment := do
  let destination ← form.require .destination "missing payment destination"
  let sendAsset ← form.require .sendAsset s!"missing {label} send asset"
  let sent ← sent
  let destinationAsset ← form.require .destinationAsset s!"missing {label} destination asset"
  let received ← received
  check (form.path.length ≤ PathPayment.maxPathLength) s!"{label} path too long"
  return ⟨destination, sendAsset, sent, destinationAsset, received, form.path⟩

/-- A weight, which is an unsigned 32-bit number if stated. -/
def weight (stated : Option Int) (name : String) : Except Failure (Option Int) :=
  match stated with
  | none => .ok none
  | some n =>
    if Wire.Integer.uint32.Fits n then .ok (some n)
    else .error (Failure.operation s!"set options {name} out of range")

/-- A home domain, which is short if stated. -/
def homeDomainOf (form : Form) : Except Failure (Option String) :=
  match form .homeDomain with
  | none => .ok none
  | some domain =>
    if Text.Utf8.size domain ≤ SetOptions.maxHomeDomainSize then .ok (some domain)
    else .error (Failure.withDetail .homeDomainTooLong "home_domain" (.text domain))

/-- Changed options of a builder's fields. -/
def setOptions (form : Form) : Except Failure SetOptions := do
  let domain ← form.homeDomainOf
  let master ← weight (form .masterWeight) "master_weight"
  let low ← weight (form .lowThreshold) "low_threshold"
  let medium ← weight (form .mediumThreshold) "medium_threshold"
  let high ← weight (form .highThreshold) "high_threshold"
  return {
    inflationDestination := form .inflationDestination
    clearFlags := form .clearAccountFlags
    setFlags := form .setAccountFlags
    masterWeight := master
    lowThreshold := low
    mediumThreshold := medium
    highThreshold := high
    homeDomain := domain
    signer := form .signer }

/-- The limit of a trust line, which is positive if stated. -/
def trustLimit (form : Form) : Except Failure (Option TrustLimit) :=
  match form .limit with
  | none => .ok none
  | some limit =>
    if limit.value ≤ 0 then .error (Failure.operation "change trust limit must be positive")
    else .ok (TrustLimit.ofStroops? limit)

/-- Flags of a trust line that are cleared and set; those not stated are none. -/
def setTrustLineFlags (form : Form) : Except Failure SetTrustLineFlags := do
  check ((form .setLineFlags).isSome ∨ (form .clearLineFlags).isSome)
    "either set or clear flags are needed for set trustline flags operation"
  let trustor ← form.require .trustor "missing trustor for set trustline flags operation"
  let asset ← form.require .asset "missing asset for set trustline flags operation"
  return {
    trustor := trustor
    asset := asset
    clearFlags := (form .clearLineFlags).getD TrustLineFlags.empty
    setFlags := (form .setLineFlags).getD TrustLineFlags.empty }

/-! ### Operations -/

/-- What the fields of a builder of a kind say is to be done. -/
def toBody (form : Form) : OperationKind → Except Failure OperationBody
  | .createAccount => do
    let destination ← form.require .newAccount "missing create account destination"
    let balance ← form.require .startingBalance "missing create account starting balance"
    return .createAccount ⟨destination, balance⟩
  | .payment => do
    let destination ← form.require .destination "missing payment destination"
    let amount ← form.require .amount "missing payment amount"
    let asset ← form.require .asset "missing payment asset"
    return .payment ⟨destination, asset, amount⟩
  | .pathPaymentStrictReceive =>
    .pathPaymentStrictReceive <$> form.pathPayment
      (form.require .sendMax "missing path payment strict receive send max")
      (form.require .destinationAmount "missing path payment strict receive destination amount")
      "path payment strict receive"
  | .manageSellOffer =>
    .manageSellOffer <$> form.manageOffer
      (form.require .amount "missing manage sell offer amount") "manage sell offer"
  | .createPassiveSellOffer =>
    .createPassiveSellOffer <$> form.offerTerms
      (form.require .amount "missing create passive sell offer amount")
      "create passive sell offer"
  | .setOptions => .setOptions <$> form.setOptions
  | .changeTrust => do
    let line ← form.require .line "missing change trust asset"
    return .changeTrust ⟨line, ← form.trustLimit⟩
  | .allowTrust => do
    let trustor ← form.require .trustor "missing allow trust trustor"
    let code ← form.require .assetCode "missing allow trust asset"
    let authorize ← form.require .authorize "missing allow trust authorize flags"
    return .allowTrust ⟨trustor, code, authorize⟩
  | .accountMerge =>
    .accountMerge <$> form.require .destination "missing account merge destination"
  | .inflation => return .inflation
  | .manageData => do
    let name ← form.require .dataName "missing manage data data name"
    check (Text.Utf8.size name ≤ ManageData.maxNameSize) "manage data data name too long"
    return .manageData ⟨name, form .dataValue⟩
  | .bumpSequence => do
    let bumpTo ← form.require .bumpTo "missing bump sequence bump to"
    check (0 ≤ bumpTo) "bump sequence bump to must be non negative"
    return .bumpSequence bumpTo
  | .manageBuyOffer =>
    .manageBuyOffer <$> form.manageOffer
      (form.require .buyAmount "missing manage buy offer amount") "manage buy offer"
  | .pathPaymentStrictSend =>
    .pathPaymentStrictSend <$> form.pathPayment
      (form.require .sendAmount "missing path payment strict send send amount")
      (form.require .destinationMin "missing path payment strict send destination min")
      "path payment strict send"
  | .createClaimableBalance => do
    let asset ← form.require .asset "missing create claimable balance asset"
    let amount ← form.require .amount "missing create claimable balance amount"
    check (form.claimants ≠ []) "missing create claimable balance claimants"
    check (form.claimants.length ≤ CreateClaimableBalance.maxClaimants)
      "create claimable balance has too many claimants"
    return .createClaimableBalance ⟨asset, amount, form.claimants⟩
  | .claimClaimableBalance =>
    .claimClaimableBalance <$> form.require .balanceId "missing claim claimable balance id"
  | .beginSponsoring =>
    .beginSponsoring <$>
      form.require .sponsored "missing begin sponsoring future reserves sponsored_id"
  | .endSponsoring => return .endSponsoring
  | .revokeSponsorship =>
    .revokeSponsorship <$>
      form.require .revokeTarget "missing revoke sponsorship operation ledger key or signer"
  | .clawback => do
    let asset ← form.require .asset "missing clawback asset"
    let holder ← form.require .holder "missing clawback from account"
    let amount ← form.require .amount "missing clawback amount"
    return .clawback ⟨asset, holder, amount⟩
  | .clawbackClaimableBalance =>
    .clawbackClaimableBalance <$>
      form.require .balanceId "missing balance id for clawback claimable balance operation"
  | .setTrustLineFlags => .setTrustLineFlags <$> form.setTrustLineFlags
  | .poolDeposit => do
    let pool ←
      form.require .poolId "missing liquidity pool id for liquidity pool deposit operation"
    let maxAmountA ←
      form.require .maxAmountA "missing max amount for asset A for liquidity pool deposit operation"
    let maxAmountB ←
      form.require .maxAmountB "missing max amount for asset B for liquidity pool deposit operation"
    let minPrice ←
      form.require .minPrice "missing min price for liquidity pool deposit operation"
    let maxPrice ←
      form.require .maxPrice "missing max price for liquidity pool deposit operation"
    return .poolDeposit ⟨pool, maxAmountA, maxAmountB, minPrice, maxPrice⟩
  | .poolWithdraw => do
    let pool ←
      form.require .poolId "missing liquidity pool id for liquidity pool withdraw operation"
    let amount ← form.require .amount "missing amount for liquidity pool withdraw operation"
    let minAmountA ←
      form.require .minAmountA
        "missing min amount for asset A for liquidity pool withdraw operation"
    let minAmountB ←
      form.require .minAmountB
        "missing min amount for asset B for liquidity pool withdraw operation"
    return .poolWithdraw ⟨pool, amount, minAmountA, minAmountB⟩

end Form

/-- An operation in the making. -/
structure Builder where
  kind : OperationKind
  form : Form
  consumed : Bool

/-- A call on a builder, other than to build. -/
inductive Entry where
  /-- Fills in a field, or empties it. -/
  | fill (field : Field) (given : field.Given)
  /-- Adds an asset to the end of the path. -/
  | addAsset (asset : Asset)
  /-- Adds a claimant to the end of the list. -/
  | addClaimant (claimant : Claimant)
  /-- Names the ledger entry that is no longer sponsored, instead of any signer. -/
  | revokeEntry (key : Option LedgerKey)
  /-- Names the signer that is no longer sponsored, instead of any ledger entry. -/
  | revokeSigner (account : KeySource) (key : Option SignerKey)

/-- A step in the making of an operation: a failure keeps what was done before it. -/
abbrev Making := EStateM Failure Builder

namespace Builder

def new (kind : OperationKind) : Builder := ⟨kind, Form.blank, false⟩

def checkUnused : Making Unit := do
  if (← get).consumed then throw (Failure.plain .builderConsumed)

/-- Sets a field of a builder that was not used. -/
def put (field : Field) (value : Option field.Value) : Making Unit := do
  checkUnused
  modify fun builder => { builder with form := builder.form.set field value }

/-- The value that was given for a field, or the failure to read it. -/
def receive {α : Type} : Except Failure α → Making α
  | .ok value => pure value
  | .error failure => throw failure

/-- Drops a ledger entry that was named, whatever comes of the call that goes on to name a
signer. -/
def dropEntry : Making Unit :=
  modify fun builder =>
    match builder.form .revokeTarget with
    | some (.entry _) => { builder with form := builder.form.set .revokeTarget none }
    | _ => builder

def enter : Entry → Making Unit
  | .fill field given => do put field (← receive (field.read given))
  | .addAsset asset => do put .path (some ((← get).form.path ++ [asset]))
  | .addClaimant claimant => do put .claimants (some ((← get).form.claimants ++ [claimant]))
  | .revokeEntry key => put .revokeTarget (key.map .entry)
  | .revokeSigner account key => do
    dropEntry
    let account ← receive account.toPublicKey
    put .revokeTarget (key.map (.signer account))

/-- The operation of the fields. The builder is used up, also if there is none. -/
def build : Making Operation := do
  checkUnused
  modify fun builder => { builder with consumed := true }
  let builder ← get
  let body ← receive (builder.form.toBody builder.kind)
  return ⟨builder.form .source, body⟩

/-- The operation that a list of calls on a new builder makes: the first failure ends it. -/
def make (kind : OperationKind) (entries : List Entry) : Except Failure Operation :=
  match (entries.forM enter *> build).run (new kind) with
  | .ok operation _ => .ok operation
  | .error failure _ => .error failure

end Builder

end LedgerWire
