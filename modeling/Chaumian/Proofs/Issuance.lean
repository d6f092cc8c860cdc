import Chaumian.Proofs.BlindSignature

/-!
# What a mint has signed is accepted, and nothing else

Two results about a secret on its way through the hands of a wallet and its mint, in a group.

* `Blind.issues_one_signature`: hiding the secret, signing it and taking the factor off again always
  comes to the same signature, the multiple `k·Y` of the secret's point, whatever the factor was. The
  mint accepts this signature under the key `k` and under no other one, and under `k` it accepts no
  other signature.
* `Issuance.transferable`: the proof of equality that comes with a promise convinces the one who
  asked for the promise. It is no reason to refuse the proof that is made of the promise, and it
  convinces everyone to whom that proof is handed on, who has seen neither the hidden secret nor the
  mint's signature of it. For this the challenge may be taken with any hash, since both checks take it
  over the same elements as the mint did.
-/

namespace Chaumian

variable {S : Suite} {G : Type} [AddCommGroup G]

/-! ## One signature -/

namespace Blind

/-- Let `Y` be the point of a message. It can be hidden behind a factor `r` unless `Y + r·G` is zero,
and then the hidden message can be signed and the factor can be taken off. What is left is `k·Y`,
whatever the factor was; it is accepted under no other key than `k`, and no other point is accepted
under `k`. -/
theorem issues_one_signature (laws : S.Laws G) {message : Bytes} {y : S.Point}
    (point : pointOf S message = .ok y) (r k : S.Scalar) :
    ((∃ blinded, blind S message r = .ok blinded) ↔
        laws.element y + r.val • laws.element laws.generator ≠ 0) ∧
      ∀ blinded, blind S message r = .ok blinded →
        ∃ signed signature, sign S k blinded = .ok signed ∧
          unblind S signed r (S.base k) = .ok signature ∧
          laws.element signature = k.val • laws.element y ∧
          (∀ k', verify S k' signature message = .ok () ↔ k' = k) ∧
          ∀ other, verify S k other message = .ok () ↔ other = signature := by
  -- The message has one point only, so what is accepted is told by the multiple of that point.
  have accepts (k : S.Scalar) (signature : S.Point) : verify S k signature message = .ok () ↔
      laws.element signature = k.val • laws.element y := by
    rw [verify_eq_ok, point, ← laws.mul_eq_ok]
    exact ⟨fun ⟨_, same, multiple⟩ => by cases same; exact multiple,
      fun multiple => ⟨y, rfl, multiple⟩⟩
  refine ⟨?_, fun blinded hidden => ?_⟩
  · rw [← laws.base, ← laws.exists_add_iff]
    refine exists_congr fun blinded => ?_
    rw [blind_eq_ok, point]
    exact ⟨fun ⟨_, same, sum⟩ => by cases same; exact sum, fun sum => ⟨y, rfl, sum⟩⟩
  · obtain ⟨signed, multiple⟩ := laws.exists_mul k blinded
    have done : sign S k blinded = .ok signed := mapError_eq_ok.2 multiple
    obtain ⟨_, signature, same, -, unblinded, taken⟩ := unblind_sign laws hidden done
    cases point.symm.trans same
    have value := laws.mul_eq_ok.1 taken
    refine ⟨signed, signature, done, unblinded, value, fun k' => ?_, fun other => ?_⟩
    · rw [accepts, value, laws.nsmul_element_inj, eq_comm]
    · rw [accepts, ← value, laws.injective.eq_iff]

end Blind

/-! ## Proofs of equality are handed on -/

/-- What becomes of an output: its secret and the factor that this is hidden behind, the key and the
nonce that the mint uses for it, and the promise that it is answered with. -/
structure Issuance (S : Suite) where
  item : PremintItem S
  key : S.Scalar
  nonce : S.Scalar
  promise : Promise S

namespace Issuance

/-- Both sides do as they should: the output hides the secret, and the promise is made with the nonce
and with the key whose public half is the one of its amount. -/
structure Honest (keys : Keys S) (i : Issuance S) : Prop where
  hidden : Blind.blind S i.item.secret.toBytes i.item.factor = .ok i.item.output.blinded
  made : Promise.make i.nonce i.key i.promise.amount i.item.output = .ok i.promise
  published : keys.get? i.promise.amount = some (S.base i.key)

variable {keys : Keys S} {i : Issuance S}

/-- The one who asked for a promise finds that it was made for the output with the mint's key. -/
theorem Honest.checkDleq (laws : S.Laws G) (h : i.Honest keys) :
    i.promise.checkDleq (S.base i.key) i.item.output.blinded = .ok () := by
  obtain ⟨signed, dleq, done, proved, same⟩ := Promise.make_eq_ok h.made
  rw [same]
  exact Dleq.check_prove laws (mapError_eq_ok.1 done) proved

/-- The promise comes to a proof, which anyone finds to be signed with the mint's key. -/
theorem Honest.exists_proof (laws : S.Laws G) (h : i.Honest keys) :
    ∃ p, Proof.ofPromise keys true i.promise i.item.factor i.item.secret = .ok p ∧
      p.secret = i.item.secret ∧ p.amount = i.promise.amount ∧
      p.checkDleq (S.base i.key) = .ok () := by
  obtain ⟨p, made, amount, -, secret, -⟩ :=
    Proof.ofPromise_make laws h.made h.hidden h.published true
  refine ⟨p, made, secret, amount, ?_⟩
  -- That nothing was refused says that the check from the proof alone has succeeded.
  obtain ⟨key, signature, known, -, rfl, verified⟩ := Proof.ofPromise_eq_ok.1 made
  obtain rfl : S.base i.key = key := Option.some.inj (h.published.symm.trans known)
  obtain ⟨signed, dleq, -, -, same⟩ := Promise.make_eq_ok h.made
  refine Proof.isSignedBy_iff.1 (verified rfl ?_)
  rw [same]
  rfl

/-- However many outputs are sent, whatever their secrets, factors, keys and nonces, and whatever the
hash that challenges are taken with: if the mint can make its promises for them, each promise holds
against the key and the hidden secret; when proofs are made of the promises with their proofs of
equality checked, nothing is refused; and each of these proofs holds against the key alone. -/
theorem transferable (laws : S.Laws G) (id : KeysetId) {issuances : List (Issuance S)}
    (honest : ∀ i ∈ issuances, i.Honest keys) :
    (∀ i ∈ issuances, i.promise.checkDleq (S.base i.key) i.item.output.blinded = .ok ()) ∧
      ∃ proofs, (Premint.mk id (issuances.map (·.item))).proofs (issuances.map (·.promise))
          keys true = .ok proofs ∧
        List.Forall₂ (fun i p => p.secret = i.item.secret ∧ p.amount = i.promise.amount ∧
          p.checkDleq (S.base i.key) = .ok ()) issuances proofs := by
  refine ⟨fun i mem => (honest i mem).checkDleq laws, ?_⟩
  obtain ⟨proofs, each⟩ := exists_forall₂ fun i mem => (honest i mem).exists_proof laws
  refine ⟨proofs, Proof.proofs_eq_ok.2 ⟨?_, ?_⟩, each.imp fun i p h => h.2⟩
  · simp [Premint.size]
  · rw [List.zip_map', List.forall₂_map_left_iff]
    exact each.imp fun i p h => h.1

end Issuance

end Chaumian

namespace Chaumian.Sample

/-- The secret of the letter `a`, hidden behind 5 and signed with the key 11. -/
theorem one_signature_of_letter :
    Blind.pointOf suite (secret 0).toBytes = .ok (point 0) ∧
      Blind.blind suite (secret 0).toBytes (scalar 4) = .ok (scalar 101) ∧
      ∃ signed signature, Blind.sign suite (scalar 10) (scalar 101) = .ok signed ∧
        Blind.unblind suite signed (scalar 4) (suite.base (scalar 10)) = .ok signature ∧
        (∀ k, Blind.verify suite k signature (secret 0).toBytes = .ok () ↔ k = scalar 10) ∧
        ∀ other, Blind.verify suite (scalar 10) other (secret 0).toBytes = .ok () ↔
          other = signature := by
  have : Fact (Nat.Prime 251) := ⟨by decide +kernel⟩
  have point : Blind.pointOf suite (secret 0).toBytes = .ok (point 0) := by decide +kernel
  have hidden : Blind.blind suite (secret 0).toBytes (scalar 4) = .ok (scalar 101) := by
    decide +kernel
  obtain ⟨-, issues⟩ := Blind.issues_one_signature (Suite.lawsOfScalars (by decide)) point
    (scalar 4) (scalar 10)
  obtain ⟨signed, signature, done, unblinded, -, accepted⟩ := issues _ hidden
  exact ⟨point, hidden, signed, signature, done, unblinded, accepted⟩

/-- Outputs for 1 and 2, both signed with the nonce 31. -/
def issuances : List (Issuance suite) :=
  [⟨⟨output 1 101, secret 0, scalar 4⟩, scalar 10, scalar 30,
      ⟨.clamp 1, keyset.id, scalar 117, some ⟨scalar 60, scalar 199⟩⟩⟩,
    ⟨⟨output 2 103, secret 1, scalar 5⟩, scalar 20, scalar 30,
      ⟨.clamp 2, keyset.id, scalar 175, some ⟨scalar 190, scalar 25⟩⟩⟩]

theorem transferable_issuances :
    (∀ i ∈ issuances, i.Honest keyset.keys) ∧
      ∃ proofs, (Premint.mk keyset.id (issuances.map (·.item))).proofs
          (issuances.map (·.promise)) keyset.keys true = .ok proofs ∧
        List.Forall₂ (fun i p => p.secret = i.item.secret ∧ p.amount = i.promise.amount ∧
          p.checkDleq (suite.base i.key) = .ok ()) issuances proofs := by
  have : Fact (Nat.Prime 251) := ⟨by decide +kernel⟩
  have honest : ∀ i ∈ issuances, i.Honest keyset.keys := by
    have evaluated : ∀ i ∈ issuances,
        Blind.blind suite i.item.secret.toBytes i.item.factor = .ok i.item.output.blinded ∧
          Promise.make i.nonce i.key i.promise.amount i.item.output = .ok i.promise ∧
          keyset.keys.get? i.promise.amount = some (suite.base i.key) := by
      decide +kernel
    intro i mem
    obtain ⟨hidden, made, published⟩ := evaluated i mem
    exact ⟨hidden, made, published⟩
  have handed := Issuance.transferable (Suite.lawsOfScalars (by decide)) keyset.id honest
  exact ⟨honest, handed.2⟩

end Chaumian.Sample
