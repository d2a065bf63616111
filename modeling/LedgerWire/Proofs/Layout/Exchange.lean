import LedgerWire.Proofs.Layout.Operation
import LedgerWire.Proofs.Wire.Recovery
import LedgerWire.Result.Exchange

/-!
Contract: the layouts of what path payments and offers did recover the values that the wire carries
whole. A trade may name parts that its kind does not need; these are not written, so a trade that
comes back has none.

Owns:
- `Carried` for trades and for what holds them: whether nothing is there that the wire drops;
- the law of the layout of each of these, for the values that are carried.

Does not own: which of these come with which code.
-/

namespace LedgerWire

open Wire Codec

/-! ### Trades -/

/-- Whether no part is there but those that the kind needs. -/
def Counterparty.Carried (counterparty : Counterparty) : Prop :=
  match counterparty.kind with
  | .v0 | .orderBook => counterparty.pool = none
  | .liquidityPool => counterparty.seller = none ∧ counterparty.offerId = none

instance (counterparty : Counterparty) : Decidable counterparty.Carried :=
  match counterparty with
  | ⟨.v0, _, _, _, _⟩ | ⟨.orderBook, _, _, _, _⟩ => inferInstanceAs (Decidable (_ = none))
  | ⟨.liquidityPool, _, _, _, _⟩ => inferInstanceAs (Decidable (_ ∧ _))

def ClaimAtom.Carried (atom : ClaimAtom) : Prop := atom.counterparty.Carried

instance (atom : ClaimAtom) : Decidable atom.Carried :=
    inferInstanceAs (Decidable atom.counterparty.Carried)

theorem Counterparty.exists_ofOffer_eq {kind : ClaimAtomKind} (isOffer : kind ≠ .liquidityPool)
    {counterparty : Counterparty} (ofKind : counterparty.kind = kind)
    (carried : counterparty.Carried) :
    ∃ offer, ofOffer kind isOffer offer = counterparty := by
  rcases counterparty with ⟨own, seller, offerId, pool, complete⟩
  obtain rfl : own = kind := ofKind
  obtain ⟨hasSeller, hasOffer, rfl⟩ : seller.isSome ∧ offerId.isSome ∧ pool = none := by
    cases own with
    | v0 => exact ⟨complete.1, complete.2, carried⟩
    | orderBook => exact ⟨complete.1, complete.2, carried⟩
    | liquidityPool => exact absurd rfl isOffer
  rcases Option.isSome_iff_exists.mp hasSeller with ⟨maker, rfl⟩
  rcases Option.isSome_iff_exists.mp hasOffer with ⟨number, rfl⟩
  exact ⟨(maker, number), rfl⟩

theorem Counterparty.exists_ofPool_eq {counterparty : Counterparty}
    (ofKind : counterparty.kind = .liquidityPool) (carried : counterparty.Carried) :
    ∃ pool, ofPool pool = counterparty := by
  rcases counterparty with ⟨own, seller, offerId, pool?, complete⟩
  obtain rfl : own = .liquidityPool := ofKind
  obtain ⟨rfl, rfl⟩ : seller = none ∧ offerId = none := carried
  rcases Option.isSome_iff_exists.mp complete with ⟨pool, rfl⟩
  exact ⟨pool, rfl⟩

theorem Counterparty.recovers_offerArm {content : Codec (PublicKey × Int)}
    (faithful : content.Faithful)
    (kind : ClaimAtomKind) (isOffer : kind ≠ .liquidityPool) :
    (content.arm (ofOffer kind isOffer) offer?).Recovers fun counterparty =>
      counterparty.kind = kind ∧ counterparty.Carried := by
  apply faithful.recovers.arm
  · intro offer _
    refine ⟨⟨rfl, ?_⟩, rfl⟩
    cases kind with
    | v0 => rfl
    | orderBook => rfl
    | liquidityPool => exact absurd rfl isOffer
  · intro counterparty own
    rcases exists_ofOffer_eq isOffer own.1 own.2 with ⟨offer, made⟩
    exact ⟨offer, trivial, made⟩

theorem ClaimAtomKind.number_injective : Function.Injective number := by
  intro kind other same
  cases kind <;> cases other <;> first | rfl | cases same

theorem Counterparty.recovers_codec : Counterparty.codec.Recovers Carried := by
  apply Recovers.union faithful_int32
  intro number arm found
  -- the arms are told by numbers, the counterparties by kinds
  have numbered (kind : ClaimAtomKind) (counterparty : Counterparty) :
      counterparty.kind = kind ∧ counterparty.Carried ↔
        counterparty.kind.number = kind.number ∧ counterparty.Carried :=
    and_congr_left fun _ => ClaimAtomKind.number_injective.eq_iff.symm
  unfold kinds at found
  split_ifs at found with isV0 isOrderBook isPool
  · obtain rfl := Option.some.inj found
    subst isV0
    exact (recovers_offerArm (PublicKey.faithful_bareCodec.pair faithful_int64) .v0 _).congr
      (numbered .v0)
  · obtain rfl := Option.some.inj found
    subst isOrderBook
    exact (recovers_offerArm (PublicKey.faithful_codec.pair faithful_int64) .orderBook _).congr
      (numbered .orderBook)
  · obtain rfl := Option.some.inj found
    subst isPool
    apply Recovers.congr ?_ (numbered .liquidityPool)
    apply LiquidityPoolId.faithful_codec.recovers.arm
    · intro pool _
      exact ⟨⟨rfl, rfl, rfl⟩, rfl⟩
    · intro counterparty own
      rcases exists_ofPool_eq own.1 own.2 with ⟨pool, made⟩
      exact ⟨pool, trivial, made⟩

theorem ClaimAtom.recovers_codec : ClaimAtom.codec.Recovers Carried := by
  have others := Asset.faithful_codec.pair <| Stroops.faithful_codec.pair <|
    Asset.faithful_codec.pair Stroops.faithful_codec
  apply ((Counterparty.recovers_codec.pair others.recovers).convert (fun _ => rfl)
    fun _ => rfl).congr
  intro atom
  exact and_iff_left trivial

theorem ClaimAtom.wide_codec : ClaimAtom.codec.Wide :=
  ((Wide.union (wide_integer .int32)).pair _).convert _ _

/-! ### Paths and offers -/

def PathPaymentSuccess.Carried (success : PathPaymentSuccess) : Prop :=
  ∀ atom ∈ success.trades, atom.Carried

def ManageOfferSuccess.Carried (success : ManageOfferSuccess) : Prop :=
  ∀ atom ∈ success.trades, atom.Carried

instance (success : PathPaymentSuccess) : Decidable success.Carried :=
  inferInstanceAs (Decidable (∀ atom ∈ success.trades, atom.Carried))

instance (success : ManageOfferSuccess) : Decidable success.Carried :=
  inferInstanceAs (Decidable (∀ atom ∈ success.trades, atom.Carried))

theorem ReceivedPayment.faithful_codec : ReceivedPayment.codec.Faithful :=
  (PublicKey.faithful_codec.pair (Asset.faithful_codec.pair Stroops.faithful_codec)).convert
    (fun _ => rfl) (fun _ => rfl)

theorem OfferEntry.faithful_codec : OfferEntry.codec.Faithful :=
  (PublicKey.faithful_codec.pair <|
    faithful_int64.pair <|
    OfferTerms.faithful_codec.pair <|
    faithful_uint32.pair (faithful_reserved _)).convert (fun _ => rfl) (fun _ => rfl)

theorem OfferEffect.recovers_codec : OfferEffect.codec.Recovers fun _ => True := by
  apply Recovers.union faithful_int32
  intro number arm found
  unfold kinds at found
  split_ifs at found with isCreated isUpdated isDeleted
  · obtain rfl := Option.some.inj found
    apply OfferEntry.faithful_codec.recovers.arm
    · intro entry _
      exact ⟨⟨isCreated.symm, trivial⟩, rfl⟩
    · intro effect own
      cases effect <;> simp [kind, OfferEffectKind.number, isCreated] at own ⊢
  · obtain rfl := Option.some.inj found
    apply OfferEntry.faithful_codec.recovers.arm
    · intro entry _
      exact ⟨⟨isUpdated.symm, trivial⟩, rfl⟩
    · intro effect own
      cases effect <;> simp [kind, OfferEffectKind.number, isUpdated] at own ⊢
  · obtain rfl := Option.some.inj found
    apply faithful_nothing.recovers.arm
    · intro _ _
      exact ⟨⟨isDeleted.symm, trivial⟩, rfl⟩
    · intro effect own
      cases effect <;> simp [kind, OfferEffectKind.number, isDeleted] at own ⊢

theorem PathPaymentSuccess.recovers_codec : PathPaymentSuccess.codec.Recovers Carried := by
  have trades := ClaimAtom.recovers_codec.array ClaimAtom.wide_codec none
  apply ((trades.pair ReceivedPayment.faithful_codec.recovers).convert (fun _ => rfl)
    fun _ => rfl).congr
  intro success
  exact and_iff_left trivial

theorem ManageOfferSuccess.recovers_codec : ManageOfferSuccess.codec.Recovers Carried := by
  have trades := ClaimAtom.recovers_codec.array ClaimAtom.wide_codec none
  apply ((trades.pair OfferEffect.recovers_codec).convert (fun _ => rfl) fun _ => rfl).congr
  intro success
  exact and_iff_left trivial

end LedgerWire
