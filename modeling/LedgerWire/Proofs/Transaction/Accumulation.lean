import LedgerWire.Proofs.Transaction.Sharing

/-!
Contract: signing adds to the end of an object's signatures and to nothing else. What is signed does
not depend on the object's own signatures, so each one that was added is still a signature of what
the object says when all calls are made.

Owns:
- `SigningCall` and `Store.performAll`: calls on one object in any order, some of which only hand
  out a signature;
- the content and the signatures of the object after such calls, entry by entry.

Does not own: whether a signature verifies.
-/

namespace LedgerWire

open Wire Codec

/-- A call on an object for a signature, which is added to the object or only handed out. -/
structure SigningCall where
  key : SecretKey
  network : Network
  adds : Bool
  deriving DecidableEq

/-- Whether a signature is what a call makes of a content: its hint is the last four bytes of the
public key, and the rest is the signature of the hash. -/
def SigningCall.Makes (call : SigningCall) (content : TaggedTransaction)
    (entry : DecoratedSignature) : Prop :=
  entry.hint.bytes = call.key.publicKey.bytes.drop (call.key.publicKey.bytes.length - 4) ∧
    ∃ hash, content.hash call.network = .ok hash ∧
      entry.signature.bytes = Ed25519.sign call.key.seed.bytes hash.bytes

namespace TaggedTransaction

variable {content : TaggedTransaction}

theorem exists_signatureData_iff (network : Network) :
    (∃ data, content.signatureData network = .ok data) ↔ ∃ back,
      codec.encode content = .ok back := by
  simp only [signatureData_eq_ok_iff]
  constructor
  · intro signed
    obtain ⟨_, back, encoded, -⟩ := signed
    exact ⟨back, encoded⟩
  · intro encodes
    obtain ⟨back, encoded⟩ := encodes
    exact ⟨_, back, encoded, rfl⟩

theorem exists_hash_of_encode (signable : ∃ back, codec.encode content = .ok back)
    (network : Network) :
    ∃ hash, content.hash network = .ok hash := by
  obtain ⟨data, signed⟩ := (exists_signatureData_iff network).mpr signable
  exact ⟨⟨sha256 data, length_sha256 _⟩, by simp [hash, signed]⟩

theorem sign_of_hash (key : SecretKey) {network : Network} {hash : FixedBytes 32}
    (hashed : content.hash network = .ok hash) :
    content.sign key network = .ok (key.signDecorated hash.bytes) := by
  simp [sign, hashed]

theorem sign_of_signatureData_error {network : Network} {failure : Failure} (key : SecretKey)
    (unsigned : content.signatureData network = .error failure) :
    content.sign key network = .error failure := by
  simp only [sign, hash, unsigned]
  rfl

theorem makes_signDecorated {call : SigningCall} {hash : FixedBytes 32}
    (hashed : content.hash call.network = .ok hash) :
    call.Makes content (call.key.signDecorated hash.bytes) := by
  refine ⟨?_, hash, hashed, rfl⟩
  have length : call.key.publicKey.bytes.length = 32 := call.key.publicKey.key.length_eq
  rw [length]
  rfl

end TaggedTransaction

namespace Store

/-- What a call leaves, where there is such an object. -/
def perform (store : Store) (ref : Ref) (call : SigningCall) : Option (Except Failure Store) :=
  if call.adds then
    store.sign ref call.key call.network
  else
    (store.envelope? ref).map fun envelope =>
      (envelope.content.sign call.key call.network).map fun _ => store

/-- The store after calls on one object. One that is refused leaves the store as it is, and the next
one follows all the same. -/
def performAll (ref : Ref) : List SigningCall → Store → Option Store
  | [], store => some store
  | call :: calls, store => do
    match ← store.perform ref call with
    | .ok after => performAll ref calls after
    | .error _ => performAll ref calls store

section

variable {store : Store} {ref : Ref} {envelope : Envelope}

theorem envelope?_append (found : store.envelope? ref = some envelope)
    (signatures : List DecoratedSignature) :
    (store.append ref signatures).envelope? ref = some (envelope.append signatures) := by
  cases ref with
  | transaction index =>
    obtain ⟨signed, foundSigned, rfl⟩ := Option.map_eq_some_iff.mp found
    rw [transaction?] at foundSigned
    simp [envelope?, transaction?, append, foundSigned, Signed.append, Envelope.ofTransaction]
  | feeBump index =>
    obtain ⟨bump, foundBump, rfl⟩ := Option.map_eq_some_iff.mp found
    simp only [feeBump?, transaction?, Option.bind_eq_bind, Option.bind_eq_some_iff,
      Option.pure_def, Option.some.injEq] at foundBump
    obtain ⟨cell, foundCell, inner, foundInner, rfl⟩ := foundBump
    simp [envelope?, feeBump?, transaction?, append, foundCell, foundInner, Signed.append,
      Envelope.ofFeeBump]

theorem sign_eq_map (found : store.envelope? ref = some envelope) (key : SecretKey)
    (network : Network) :
    store.sign ref key network =
      some ((envelope.content.sign key network).map fun signature =>
        store.append ref [signature]) := by
  rw [sign, found, Option.bind_eq_bind, Option.bind_some]
  cases envelope.content.sign key network with
  | ok signature => rfl
  | error failure => rfl

theorem perform_of_sign (found : store.envelope? ref = some envelope) {call : SigningCall}
    {signature : DecoratedSignature}
    (signed : envelope.content.sign call.key call.network = .ok signature) :
    store.perform ref call =
      some (.ok (if call.adds then store.append ref [signature] else store)) := by
  rw [perform]
  split
  · rw [sign_eq_map found, signed]
    rfl
  · rw [found, Option.map_some, signed]
    rfl

theorem perform_of_error (found : store.envelope? ref = some envelope) {call : SigningCall}
    {failure : Failure} (refused : envelope.content.sign call.key call.network = .error failure) :
    store.perform ref call = some (.error failure) := by
  rw [perform]
  split
  · rw [sign_eq_map found, refused]
    rfl
  · rw [found, Option.map_some, refused]
    rfl

/-- Calls on an object that can be signed add one signature each, in their order, but for those that
only hand one out. -/
theorem exists_performAll_of_signable (found : store.envelope? ref = some envelope)
    (signable : ∃ back, TaggedTransaction.codec.encode envelope.content = .ok back)
    (calls : List SigningCall) :
    ∃ after added, performAll ref calls store = some after ∧
      after.envelope? ref = some (envelope.append added) ∧
        List.Forall₂ (fun call entry => call.Makes envelope.content entry)
          (calls.filter (·.adds)) added := by
  induction calls generalizing store envelope with
  | nil => exact ⟨store, [], rfl, by simpa using found, .nil⟩
  | cons call calls inductionHypothesis =>
    obtain ⟨hash, hashed⟩ := TaggedTransaction.exists_hash_of_encode signable call.network
    have performed := perform_of_sign found (TaggedTransaction.sign_of_hash call.key hashed)
    rw [performAll, performed]
    -- an added signature is no part of the content, so the calls to come find the same bytes to
    -- sign
    cases adds : call.adds with
    | true =>
      obtain ⟨after, added, run, foundAfter, made⟩ :=
        inductionHypothesis (envelope?_append found _) signable
      refine ⟨after, call.key.signDecorated hash.bytes :: added, run, ?_, ?_⟩
      · rw [foundAfter, Signed.append_append]
        rfl
      · rw [List.filter_cons_of_pos adds]
        exact .cons (TaggedTransaction.makes_signDecorated hashed) made
    | false =>
      obtain ⟨after, added, run, foundAfter, made⟩ := inductionHypothesis found signable
      refine ⟨after, added, run, foundAfter, ?_⟩
      rwa [List.filter_cons_of_neg (by simp [adds])]

theorem performAll_of_unsignable (found : store.envelope? ref = some envelope)
    (unsignable : ¬ ∃ back, TaggedTransaction.codec.encode envelope.content = .ok back)
    (calls : List SigningCall) : performAll ref calls store = some store := by
  induction calls with
  | nil => rfl
  | cons call calls inductionHypothesis =>
    cases toSign : envelope.content.signatureData call.network with
    | ok data =>
      exact absurd ((TaggedTransaction.exists_signatureData_iff _).mp ⟨data, toSign⟩) unsignable
    | error failure =>
      rw [performAll,
        perform_of_error found (TaggedTransaction.sign_of_signatureData_error call.key toSign)]
      exact inductionHypothesis

end

/-- However an object is called for signatures, by any keys and for any networks: what is signed for
it and its hash stay the same for every network. If there is something to sign, its signatures are
those it had, and then one for each call that was to add one, in the order of the calls; each is
made by the key of its call, of the hash that the object has at the end. If there is nothing to
sign, for one network or for any, every call is refused and nothing is changed. -/
theorem signatures_performAll
    {store : Store}
    {ref : Ref}
    {envelope : Envelope}
    (found : store.envelope? ref = some envelope)
    (calls : List SigningCall) :
    ∃ after later, performAll ref calls store = some after ∧ after.envelope? ref = some later ∧
      (∀ network, later.content.signatureData network = envelope.content.signatureData network ∧
        later.content.hash network = envelope.content.hash network) ∧
      ((∀ network, ∃ data, envelope.content.signatureData network = .ok data) ∧
          (∃ added, later.signatures = envelope.signatures ++ added ∧
            List.Forall₂ (fun call entry => call.Makes later.content entry)
              (calls.filter (·.adds)) added) ∨
        (∀ network data, envelope.content.signatureData network ≠ .ok data) ∧ after = store) := by
  by_cases signable : ∃ back, TaggedTransaction.codec.encode envelope.content = .ok back
  · obtain ⟨after, added, run, foundAfter, made⟩ :=
      exists_performAll_of_signable found signable calls
    refine ⟨after, envelope.append added, run, foundAfter, fun network =>
      ⟨rfl, rfl⟩, Or.inl ⟨?_, ?_⟩⟩
    · intro network
      exact (TaggedTransaction.exists_signatureData_iff network).mpr signable
    · exact ⟨added, rfl, made⟩
  · refine ⟨store, envelope, performAll_of_unsignable found signable calls, found,
      fun network => ⟨rfl, rfl⟩, Or.inr ⟨?_, rfl⟩⟩
    intro network data toSign
    exact signable ((TaggedTransaction.exists_signatureData_iff _).mp ⟨data, toSign⟩)

/-- A fee bump is signed by one key for two networks, with a signature by another key handed out in
between. -/
theorem signatures_performAll_wrapped :
    let first : SecretKey := ⟨⟨List.replicate 32 1, rfl⟩⟩
    let second : SecretKey := ⟨⟨List.replicate 32 2, rfl⟩⟩
    ∃ before after later, wrapped.envelope? (.feeBump 0) = some before ∧
      performAll (.feeBump 0) [⟨first, .testNetwork, true⟩, ⟨second, .testNetwork, false⟩,
        ⟨first, .publicNetwork, true⟩] wrapped = some after ∧
      after.envelope? (.feeBump 0) = some later ∧
      (∀ network, later.content.signatureData network = before.content.signatureData network) ∧
      ∃ test main, later.signatures = [test, main] ∧
        SigningCall.Makes ⟨first, .testNetwork, true⟩ later.content test ∧
        SigningCall.Makes ⟨first, .publicNetwork, true⟩ later.content main := by
  intro first second
  let bump : FeeBump :=
    ⟨Transaction.inflation.source, ⟨200, by decide⟩, ⟨Transaction.inflation, []⟩⟩
  have found : wrapped.envelope? (.feeBump 0) = some (Envelope.ofFeeBump ⟨bump, []⟩) := rfl
  obtain ⟨back, encoded⟩ : ∃ back,
      TaggedTransaction.codec.encode (.feeBump bump) = .ok back := ⟨_, rfl⟩
  obtain ⟨after, later, run, foundLater, same, outcome⟩ :=
    signatures_performAll found [⟨first, .testNetwork, true⟩, ⟨second, .testNetwork, false⟩,
      ⟨first, .publicNetwork, true⟩]
  refine ⟨_, after, later, found, run, foundLater, fun network => (same network).1, ?_⟩
  rcases outcome with ⟨-, added, signatures, made⟩ | ⟨unsignable, -⟩
  · simp only [List.filter, List.forall₂_cons_left_iff, List.forall₂_nil_left_iff] at made
    obtain ⟨test, _, testMade, ⟨main, _, mainMade, rfl, rfl⟩, rfl⟩ := made
    exact ⟨test, main, signatures, testMade, mainMade⟩
  · exact absurd (TaggedTransaction.signatureData_eq_ok_iff.mpr ⟨back, encoded, rfl⟩)
      (unsignable .testNetwork _)

end Store

end LedgerWire
