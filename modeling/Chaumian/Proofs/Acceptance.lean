import Chaumian.Proofs.Issuance

/-!
# Which promises come to proofs

A promise is checked twice over, by two ways that share only the last step: against the blinded
message that was sent for it, and, once the factor is taken off, from the proof alone, which finds
the blinded message and its signature again. In a group both ways come to the same points, so they
answer alike, whatever the promise is.

It follows which promises are made proofs of: those, equally many as factors and secrets, that each
have a key, leave a point when the factor is taken off, and hold where they claim to. Each proof is
that of the promise, the factor and the secret at its own place.
-/

namespace Chaumian

variable {S : Suite} {G : Type} [AddCommGroup G] (laws : S.Laws G)

section

variable {promise : Promise S} {r : S.Scalar} {secret : Secret} {blinded key signature : S.Point}

include laws

theorem Blind.unblind_eq_ok {signed : S.Point} :
    unblind S signed r key = .ok signature ↔
      laws.element signature = laws.element signed - r.val • laws.element key := by
  obtain ⟨mask, masked⟩ := laws.exists_mul r key
  rw [unblind, masked, ← laws.mul_eq_ok.1 masked, ← laws.sub_eq_ok]
  exact mapError_eq_ok

/-- A factor can be taken off unless nothing is left. -/
theorem Blind.exists_unblind_iff {signed : S.Point} :
    (∃ signature, unblind S signed r key = .ok signature) ↔
      laws.element signed - r.val • laws.element key ≠ 0 := by
  obtain ⟨mask, masked⟩ := laws.exists_mul r key
  have left : (∃ signature, S.sub signed mask = .ok signature) ↔
      laws.element signed - laws.element mask ≠ 0 := by
    rw [sub_eq_add_neg, ← laws.neg]
    exact laws.exists_add_iff
  rw [← laws.mul_eq_ok.1 masked, ← left]
  refine exists_congr fun signature => ?_
  rw [unblind_eq_ok laws, laws.sub_eq_ok, laws.mul_eq_ok.1 masked]

/-- The check from the proof alone adds the mask again that unblinding took off, and so it is the
check of the promise. -/
theorem Proof.checkDleq_ofSignature (hidden : Blind.blind S secret.toBytes r = .ok blinded)
    (unblinded : Blind.unblind S promise.signature r key = .ok signature) :
    (ofSignature promise r secret signature).checkDleq key = promise.checkDleq key blinded := by
  obtain ⟨y, point, sum⟩ := Blind.blind_eq_ok.1 hidden
  obtain ⟨mask, masked⟩ := laws.exists_mul r key
  have again : S.add signature mask = .ok promise.signature := by
    rw [laws.add_eq_ok, (Blind.unblind_eq_ok laws).1 unblinded, laws.mul_eq_ok.1 masked,
      sub_add_cancel]
  rcases claimed : promise.dleq with _ | d
  · simp [checkDleq, Promise.checkDleq, ofSignature, claimed]
  · have y : (ofSignature promise r secret signature).y = .ok y := point
    simp only [checkDleq, Promise.checkDleq, claimed, ofSignature, Option.map_some] at y ⊢
    simp only [y, sum, masked, again, Except.mapError, bind, Except.bind]

end

/-- What is asked of a promise for a blinded message: a key for its amount, that something is left
when the factor is taken off, and that it holds if it claims to and that is checked. -/
structure Promise.Passes (keys : Keys S) (checked : Bool) (promise : Promise S) (r : S.Scalar)
    (blinded key : S.Point) : Prop where
  known : keys.get? promise.amount = some key
  leaves : laws.element promise.signature - r.val • laws.element key ≠ 0
  holds : checked → promise.dleq.isSome → promise.checkDleq key blinded = .ok ()

/-- What a proof has from the promise, the factor and the secret that it is made of. Checked alone,
it answers as the promise does against the blinded message. -/
structure Proof.MadeOf (promise : Promise S) (r : S.Scalar) (secret : Secret)
    (blinded key : S.Point) (p : Proof S) : Prop where
  amount : p.amount = promise.amount
  keysetId : p.keysetId = promise.keysetId
  secret : p.secret = secret
  signature : laws.element p.signature = laws.element promise.signature - r.val • laws.element key
  dleq : p.dleq = promise.dleq.map fun d => ⟨d.e, d.s, r⟩
  answers : p.checkDleq key = promise.checkDleq key blinded

section

variable {keys : Keys S} {checked : Bool} {promise : Promise S} {r : S.Scalar} {secret : Secret}
  {blinded : S.Point} {p : Proof S}

theorem Proof.passes_of_ofPromise (hidden : Blind.blind S secret.toBytes r = .ok blinded)
    (made : ofPromise keys checked promise r secret = .ok p) :
    ∃ key, promise.Passes laws keys checked r blinded key ∧
      p.MadeOf laws promise r secret blinded key := by
  obtain ⟨key, signature, known, unblinded, rfl, verified⟩ := ofPromise_eq_ok.1 made
  have answers := checkDleq_ofSignature laws hidden unblinded
  refine ⟨key, ⟨known, ?_, fun asked claimed => ?_⟩, ⟨rfl, rfl, rfl, ?_, rfl, answers⟩⟩
  · exact (Blind.exists_unblind_iff laws).1 ⟨signature, unblinded⟩
  · rw [← answers]
    refine isSignedBy_iff.1 (verified asked ?_)
    simpa [ofSignature] using claimed
  · exact (Blind.unblind_eq_ok laws).1 unblinded

theorem Proof.exists_ofPromise (hidden : Blind.blind S secret.toBytes r = .ok blinded)
    {key : S.Point} (passes : promise.Passes laws keys checked r blinded key) :
    ∃ p, ofPromise keys checked promise r secret = .ok p := by
  obtain ⟨signature, unblinded⟩ := (Blind.exists_unblind_iff laws).2 passes.leaves
  refine ⟨_, ofPromise_eq_ok.2 ⟨key, signature, passes.known, unblinded, rfl,
    fun asked claimed => ?_⟩⟩
  rw [isSignedBy_iff, checkDleq_ofSignature laws hidden unblinded]
  refine passes.holds asked ?_
  simpa [ofSignature] using claimed

end

section

variable {promises : List (Promise S)} {rs : List S.Scalar} {secrets : List Secret}
  {keys : Keys S} {checked : Bool} {blinded : List S.Point} {proofs : List (Proof S)}

theorem Proof.ofPromises_eq_ok : ofPromises promises rs secrets keys checked = .ok proofs ↔
    promises.length = rs.length ∧ promises.length = secrets.length ∧
      List.Forall₂ (fun (promise, r, secret) p =>
        ofPromise keys checked promise r secret = .ok p) (promises.zip (rs.zip secrets)) proofs := by
  rw [ofPromises]
  by_cases apart : promises.length ≠ rs.length ∨ promises.length ≠ secrets.length
  · rw [if_pos apart]
    constructor
    · intro h
      cases h
    · rintro ⟨same, same', -⟩
      exact absurd apart (not_or.2 ⟨not_not.2 same, not_not.2 same'⟩)
  · rw [if_neg apart, mapM_eq_ok]
    obtain ⟨same, same'⟩ := not_or.1 apart
    exact ⟨fun each => ⟨not_not.1 same, not_not.1 same', each⟩, fun h => h.2.2⟩

/-- The factors and secrets hide behind blinded messages, each pair behind the one at its place. -/
def Blind.Hides (rs : List S.Scalar) (secrets : List Secret) (blinded : List S.Point) : Prop :=
  List.Forall₂ (fun (r, secret) B => blind S (Secret.toBytes secret) r = .ok B) (rs.zip secrets)
    blinded

/-- At each place there is the proof of what was given there. -/
theorem Proof.getElem?_of_ofPromises
    (made : ofPromises promises rs secrets keys checked = .ok proofs)
    (hides : Blind.Hides rs secrets blinded) {i : Nat} {promise : Promise S} {r : S.Scalar}
    {secret : Secret} {B : S.Point} (promised : promises[i]? = some promise)
    (factor : rs[i]? = some r) (kept : secrets[i]? = some secret) (sent : blinded[i]? = some B) :
    ∃ p key, proofs[i]? = some p ∧ promise.Passes laws keys checked r B key ∧
      p.MadeOf laws promise r secret B key := by
  obtain ⟨-, -, each⟩ := ofPromises_eq_ok.1 made
  have hidden := (forall₂_iff_getElem?.1 hides).2 i (r, secret) B
    (List.getElem?_zip_eq_some.2 ⟨factor, kept⟩) sent
  have beside : (promises.zip (rs.zip secrets))[i]? = some (promise, r, secret) :=
    List.getElem?_zip_eq_some.2 ⟨promised, List.getElem?_zip_eq_some.2 ⟨factor, kept⟩⟩
  obtain ⟨p, there⟩ := exists_getElem? (forall₂_iff_getElem?.1 each).1 beside
  obtain ⟨key, passes, of⟩ := passes_of_ofPromise laws hidden
    ((forall₂_iff_getElem?.1 each).2 i _ p beside there)
  exact ⟨p, key, there, passes, of⟩

/-- **Proofs are made exactly of what the checks of the promises let pass.** Whatever is promised,
however the factors and secrets were chosen that hide behind the blinded messages, and whatever keys
are known: proofs are made exactly if promises, factors and secrets are equally many and each promise
passes against the blinded message at its place. Then the proof at each place is made of the promise,
the factor and the secret there, and it holds alone exactly if the promise does. -/
theorem Proof.ofPromises_accepts (checked : Bool) (keys : Keys S) (promises : List (Promise S))
    (hides : Blind.Hides rs secrets blinded) :
    ((∃ proofs, ofPromises promises rs secrets keys checked = .ok proofs) ↔
      promises.length = rs.length ∧ promises.length = secrets.length ∧
        ∀ (i : Nat) promise r B, promises[i]? = some promise → rs[i]? = some r →
          blinded[i]? = some B → ∃ key, promise.Passes laws keys checked r B key) ∧
      ∀ proofs, ofPromises promises rs secrets keys checked = .ok proofs →
        proofs.length = promises.length ∧
          ∀ (i : Nat) promise r secret B p, promises[i]? = some promise → rs[i]? = some r →
            secrets[i]? = some secret → blinded[i]? = some B → proofs[i]? = some p →
              ∃ key, promise.Passes laws keys checked r B key ∧
                p.MadeOf laws promise r secret B key := by
  refine ⟨⟨?_, ?_⟩, fun proofs made => ⟨?_, ?_⟩⟩
  · rintro ⟨proofs, made⟩
    obtain ⟨same, same', -⟩ := ofPromises_eq_ok.1 made
    refine ⟨same, same', fun i promise r B promised factor sent => ?_⟩
    obtain ⟨secret, kept⟩ := exists_getElem? same' promised
    obtain ⟨-, key, -, passes, -⟩ :=
      getElem?_of_ofPromises laws made hides promised factor kept sent
    exact ⟨key, passes⟩
  · rintro ⟨same, same', all⟩
    have each : ∀ given ∈ promises.zip (rs.zip secrets),
        ∃ p, ofPromise keys checked given.1 given.2.1 given.2.2 = .ok p := by
      intro given mem
      obtain ⟨i, beside⟩ := List.mem_iff_getElem?.1 mem
      obtain ⟨promised, pair⟩ := List.getElem?_zip_eq_some.1 beside
      obtain ⟨B, sent⟩ := exists_getElem? (forall₂_iff_getElem?.1 hides).1 pair
      obtain ⟨key, passes⟩ := all i _ _ B promised (List.getElem?_zip_eq_some.1 pair).1 sent
      exact exists_ofPromise laws ((forall₂_iff_getElem?.1 hides).2 i _ B pair sent) passes
    obtain ⟨proofs, each⟩ := exists_forall₂ each
    exact ⟨proofs, ofPromises_eq_ok.2 ⟨same, same', each⟩⟩
  · obtain ⟨same, same', each⟩ := ofPromises_eq_ok.1 made
    rw [← each.length_eq, List.length_zip, List.length_zip]
    omega
  · intro i promise r secret B p promised factor kept sent there
    obtain ⟨p', key, there', passes, of⟩ :=
      getElem?_of_ofPromises laws made hides promised factor kept sent
    obtain rfl : p = p' := Option.some.inj (there.symm.trans there')
    exact ⟨key, passes, of⟩

end

end Chaumian

namespace Chaumian.Sample

/-- The promises for two letters come to two proofs; the second holds alone, as its promise does. -/
theorem accepted_promises :
    Blind.Hides [scalar 4, scalar 5] [secret 0, secret 1] [scalar 101, scalar 103] ∧
      ∃ proofs p key, Proof.ofPromises (issuances.map (·.promise)) [scalar 4, scalar 5]
          [secret 0, secret 1] keyset.keys true = .ok proofs ∧
        proofs.length = 2 ∧ proofs[1]? = some p ∧ keyset.keys.get? (.clamp 2) = some key ∧
        p.secret = secret 1 ∧ p.checkDleq key = .ok () := by
  have : Fact (Nat.Prime 251) := ⟨by decide +kernel⟩
  have hides : Blind.Hides [scalar 4, scalar 5] [secret 0, secret 1] [scalar 101, scalar 103] :=
    .cons (by decide +kernel) (.cons (by decide +kernel) .nil)
  obtain ⟨-, accepted⟩ := Proof.ofPromises_accepts (Suite.lawsOfScalars (by decide)) true
    keyset.keys (issuances.map (·.promise)) hides
  have passed : (Proof.ofPromises (issuances.map (·.promise)) [scalar 4, scalar 5]
      [secret 0, secret 1] keyset.keys true).isOk := by decide +kernel
  rcases made : Proof.ofPromises (issuances.map (·.promise)) [scalar 4, scalar 5]
      [secret 0, secret 1] keyset.keys true with e | proofs
  · rw [made] at passed
    cases passed
  · obtain ⟨length, each⟩ := accepted proofs made
    have promised : (issuances.map (·.promise))[1]? =
      some ⟨.clamp 2, keyset.id, scalar 175, some ⟨scalar 190, scalar 25⟩⟩ := rfl
    obtain ⟨p, there⟩ := exists_getElem? length.symm promised
    obtain ⟨key, passes, of⟩ := each 1 _ _ _ _ p promised rfl rfl rfl there
    exact ⟨hides, proofs, p, key, made, length, there, passes.known, of.secret,
      of.answers.trans (passes.holds rfl rfl)⟩

end Chaumian.Sample
