import Chaumian.Proofs.Group
import Chaumian.Proofs.Proof

/-!
# What a mint signs can be unblinded

In a group the factor a message was hidden behind can be taken off the signature of the hidden
message again, and what is left is the mint's signature of the message. The proof of equality that
comes with a signature holds, also when it is checked from the unblinded proof alone. So what a mint
has promised for an output of one's own always comes to a proof.
-/

namespace Chaumian

variable {S : Suite} {G : Type} [AddCommGroup G] (laws : S.Laws G)

include laws

namespace Blind

omit [AddCommGroup G] laws in
theorem blind_eq_ok {message : Bytes} {r : S.Scalar} {blinded : S.Point} :
    blind S message r = .ok blinded ↔
      ∃ y, pointOf S message = .ok y ∧ S.add y (S.base r) = .ok blinded := by
  simp only [blind, bind_eq_ok, mapError_eq_ok]

/-- With `B = Y + r·G` and `C = k·B`, the difference of `C` and `r·k·G` is `k·Y`. -/
theorem unblind_sign {message : Bytes} {r k : S.Scalar} {blinded signed : S.Point}
    (hidden : blind S message r = .ok blinded) (done : sign S k blinded = .ok signed) :
    ∃ y signature, pointOf S message = .ok y ∧ S.add y (S.base r) = .ok blinded ∧
      unblind S signed r (S.base k) = .ok signature ∧ S.mul k y = .ok signature := by
  obtain ⟨y, point, hidden⟩ := blind_eq_ok.1 hidden
  have done := mapError_eq_ok.1 done
  obtain ⟨mask, masked⟩ := laws.exists_mul r (S.base k)
  obtain ⟨signature, multiple⟩ := laws.exists_mul k y
  have left : S.sub signed mask = .ok signature := by
    rw [laws.sub_eq_ok, laws.mul_eq_ok.1 multiple, laws.mul_eq_ok.1 done,
      laws.add_eq_ok.1 hidden, laws.mul_eq_ok.1 masked, laws.base, laws.base, nsmul_add,
      nsmul_left_comm, add_sub_cancel_right]
  refine ⟨y, signature, point, hidden, ?_, multiple⟩
  exact bind_eq_ok.2 ⟨mask, mapError_eq_ok.2 masked, mapError_eq_ok.2 left⟩

omit [AddCommGroup G] laws in
/-- A signature is accepted if it is the multiple of the message's point. -/
theorem verify_eq_ok {message : Bytes} {k : S.Scalar} {signature : S.Point} :
    verify S k signature message = .ok () ↔
      ∃ y, pointOf S message = .ok y ∧ S.mul k y = .ok signature := by
  simp only [verify, bind_eq_ok, mapError_eq_ok]
  constructor
  · rintro ⟨y, point, expected, multiple, h⟩
    split at h
    · rename_i same
      exact ⟨y, point, same ▸ multiple⟩
    · cases h
  · rintro ⟨y, point, multiple⟩
    exact ⟨y, point, signature, multiple, if_pos rfl⟩

end Blind

namespace Dleq

omit [AddCommGroup G] laws in
/-- A proof says what it was made of. -/
theorem prove_eq_ok {nonce k : S.Scalar} {blinded signature : S.Point} {d : Dleq S}
    (h : prove S nonce k blinded signature = .ok d) :
    ∃ ofBlinded ek, S.mul nonce blinded = .ok ofBlinded ∧
      S.challenge [S.base nonce, ofBlinded, S.base k, signature] = d.e.val ∧
      d.e.mul? k = some ek ∧ nonce.add? ek = some d.s := by
  obtain ⟨ofBlinded, multiple, h⟩ := bind_eq_ok.1 h
  obtain ⟨e, taken, h⟩ := bind_eq_ok.1 h
  obtain ⟨ek, product, h⟩ := bind_eq_ok.1 h
  obtain ⟨s, sum, h⟩ := bind_eq_ok.1 h
  cases h
  exact ⟨ofBlinded, ek, mapError_eq_ok.1 multiple, (Scalar.val_of_ofNat? (elim_eq_ok.1 taken)).symm,
    elim_eq_ok.1 product, elim_eq_ok.1 sum⟩

/-- Nothing degenerate comes of a proof whose numbers are all small. -/
theorem exists_prove {most : Nat} (bounds : ∀ ps, 0 < S.challenge ps ∧ S.challenge ps ≤ most)
    {nonce k : S.Scalar} (small : nonce.val + most * k.val < S.order)
    (blinded signature : S.Point) : ∃ d, prove S nonce k blinded signature = .ok d := by
  obtain ⟨ofBlinded, multiple⟩ := laws.exists_mul nonce blinded
  have bounds := bounds [S.base nonce, ofBlinded, S.base k, signature]
  generalize taken : S.challenge [S.base nonce, ofBlinded, S.base k, signature] = n at bounds
  obtain ⟨pos, le⟩ := bounds
  have low : n ≤ n * k.val := Nat.le_mul_of_pos_right n k.pos
  have high : n * k.val ≤ most * k.val := Nat.mul_le_mul_right k.val le
  let e : S.Scalar := ⟨n, pos, by omega⟩
  let ek : S.Scalar := ⟨n * k.val, by omega, by omega⟩
  have challenge : Scalar.ofNat? S.order n = some e := dif_pos ⟨e.pos, e.lt⟩
  have product : e.mul? k = some ek := Scalar.reduce?_of_lt ek.pos ek.lt
  have sum : nonce.add? ek = some ⟨nonce.val + n * k.val, by omega, by omega⟩ :=
    Scalar.reduce?_of_lt _ _
  refine ⟨_, bind_eq_ok.2 ⟨ofBlinded, mapError_eq_ok.2 multiple, bind_eq_ok.2 ⟨e, ?_,
    bind_eq_ok.2 ⟨ek, elim_eq_ok.2 product, bind_eq_ok.2 ⟨_, elim_eq_ok.2 sum, rfl⟩⟩⟩⟩⟩
  rw [taken]
  exact elim_eq_ok.2 challenge

/-- What a multiple by `s = n + e·k` comes to when the multiple by `e` of the multiple by `k` is
taken off. -/
theorem sub_of_response {n e k s ek : S.Scalar} (product : e.mul? k = some ek)
    (sum : n.add? ek = some s) {p pk pn ps : S.Point} (byKey : S.mul k p = .ok pk)
    (byNonce : S.mul n p = .ok pn) (byResponse : S.mul s p = .ok ps) :
    (do S.sub ps (← S.mul e pk) : Except CurveError S.Point) = .ok pn := by
  obtain ⟨mask, masked⟩ := laws.exists_mul e pk
  refine bind_eq_ok.2 ⟨mask, masked, ?_⟩
  have torsion := laws.torsion p
  rw [laws.sub_eq_ok, laws.mul_eq_ok.1 byNonce, laws.mul_eq_ok.1 byResponse,
    laws.mul_eq_ok.1 masked, laws.mul_eq_ok.1 byKey, Scalar.nsmul_of_add? torsion sum,
    Scalar.nsmul_of_mul? torsion product, add_sub_cancel_right]

/-- With `s = n + e·k`, the difference of `s·G` and `e·k·G` is `n·G`, and so it is with the blinded
message in place of the generator: the challenge is taken over the same elements. -/
theorem check_prove {nonce k : S.Scalar} {blinded signature : S.Point} {d : Dleq S}
    (signed : S.mul k blinded = .ok signature)
    (proved : prove S nonce k blinded signature = .ok d) :
    check S blinded signature d.e d.s (S.base k) = .ok () := by
  obtain ⟨ofBlinded, ek, multiple, taken, product, sum⟩ := prove_eq_ok proved
  obtain ⟨byResponse, responded⟩ := laws.exists_mul d.s blinded
  have ofBase := sub_of_response laws product sum (laws.mul_generator k) (laws.mul_generator nonce)
    (laws.mul_generator d.s)
  have ofBlinded' := sub_of_response laws product sum signed multiple responded
  refine bind_eq_ok.2 ⟨S.base nonce, mapError_eq_ok.2 ofBase, bind_eq_ok.2 ⟨ofBlinded, ?_, ?_⟩⟩
  · exact mapError_eq_ok.2 (bind_eq_ok.2 ⟨byResponse, responded, ofBlinded'⟩)
  · exact if_pos taken

end Dleq

namespace Proof

omit [AddCommGroup G] laws in
theorem isSignedBy_iff {p : Proof S} {key : S.Point} :
    p.isSignedBy key ↔ p.checkDleq key = .ok () := by
  rw [isSignedBy]
  cases p.checkDleq key with
  | error e => exact ⟨fun h => (nomatch h), fun h => (nomatch h)⟩
  | ok u => exact ⟨fun _ => rfl, fun _ => rfl⟩

/-- A promise that was made for an output of one's own comes to a proof, whether its proof of
equality is checked or not, and the mint takes its signature for its own. -/
theorem ofPromise_make {nonce k r : S.Scalar} {amount : Amount} {output : Output S}
    {promise : Promise S} {secret : Secret} {keys : Keys S}
    (made : Promise.make nonce k amount output = .ok promise)
    (hidden : Blind.blind S secret.toBytes r = .ok output.blinded)
    (known : keys.get? amount = some (S.base k)) (checked : Bool) :
    ∃ p, ofPromise keys checked promise r secret = .ok p ∧
      p.amount = amount ∧ p.keysetId = output.keysetId ∧ p.secret = secret ∧
      Blind.verify S k p.signature p.secret.toBytes = .ok () := by
  obtain ⟨signed, d, done, proved, rfl⟩ := Promise.make_eq_ok made
  obtain ⟨y, signature, point, blinded, unblinded, multiple⟩ := Blind.unblind_sign laws hidden done
  have done := mapError_eq_ok.1 done
  refine ⟨ofSignature ⟨amount, output.keysetId, signed, some d⟩ r secret signature,
    ofPromise_eq_ok.2 ⟨S.base k, signature, known, unblinded, rfl, fun _ _ => ?_⟩, rfl, rfl, rfl,
    Blind.verify_eq_ok.2 ⟨y, point, multiple⟩⟩
  -- The blinded message and its signature are found again: `C + r·K` is what was unblinded.
  obtain ⟨mask, masked⟩ := laws.exists_mul r (S.base k)
  have again : S.add signature mask = .ok signed := by
    have taken := (bind_eq_ok.1 unblinded)
    obtain ⟨mask', masked', left⟩ := taken
    cases masked.symm.trans (mapError_eq_ok.1 masked')
    rw [laws.add_eq_ok, laws.sub_eq_ok.1 (mapError_eq_ok.1 left), sub_add_cancel]
  have verified : checkDleq
      (ofSignature ⟨amount, output.keysetId, signed, some d⟩ r secret signature)
      (S.base k) = .ok () := by
    refine bind_eq_ok.2 ⟨y, mapError_eq_ok.2 point, bind_eq_ok.2 ⟨output.blinded,
      mapError_eq_ok.2 blinded, bind_eq_ok.2 ⟨mask, mapError_eq_ok.2 masked,
      bind_eq_ok.2 ⟨signed, mapError_eq_ok.2 again, ?_⟩⟩⟩⟩
    exact Dleq.check_prove laws done proved
  exact isSignedBy_iff.2 verified

end Proof

end Chaumian
