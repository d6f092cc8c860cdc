import Chaumian.Premint
import Chaumian.Proofs.Outcome
import Chaumian.Proofs.Amount
import Chaumian.Store.Row

/-!
# What proofs are made of

A proof has the amount and the keyset of the promise it was made of and the secret of the output
that was promised for; its row is kept under the point of that secret.
-/

namespace Chaumian

variable {S : Suite}

/-- The exact value of proofs. -/
def Proof.exactTotal (proofs : List (Proof S)) : Nat := Amount.exactSum (proofs.map (·.amount))

namespace Proof

theorem exactTotal_of_total {proofs : List (Proof S)} {total : Amount}
    (h : Proof.total proofs = .ok total) : exactTotal proofs = total.toNat :=
  Amount.exactSum_of_sum h

theorem total_eq_ofExact (proofs : List (Proof S)) :
    Proof.total proofs = Amount.ofExact (exactTotal proofs) :=
  Amount.sum_eq_ofExact _

/-- What fits in 64 bits can be counted. -/
theorem total_of_lt {proofs : List (Proof S)} (fits : exactTotal proofs < 2 ^ 64) :
    Proof.total proofs = .ok ⟨exactTotal proofs, fits⟩ := by
  rw [total_eq_ofExact]
  exact Amount.ofExact_of_lt _

/-- What is worth no more than an amount can be counted. -/
theorem total_of_le {proofs : List (Proof S)} {amount : Amount}
    (within : exactTotal proofs ≤ amount.toNat) :
    Proof.total proofs = .ok ⟨exactTotal proofs, Nat.lt_of_le_of_lt within amount.lt⟩ :=
  total_of_lt _

theorem exactTotal_perm {proofs others : List (Proof S)}
    (h : proofs.Perm others) : exactTotal proofs = exactTotal others :=
  Amount.exactSum_perm (h.map _)

theorem exactTotal_append (proofs others : List (Proof S)) :
    exactTotal (proofs ++ others) = exactTotal proofs + exactTotal others := by
  rw [exactTotal, List.map_append, Amount.exactSum_append]
  rfl

theorem exactTotal_filter_ne_zero (proofs : List (Proof S)) :
    exactTotal (proofs.filter (·.amount.toNat ≠ 0)) = exactTotal proofs := by
  induction proofs with
  | nil => rfl
  | cons p rest ih =>
    have all : exactTotal (p :: rest) = p.amount.toNat + exactTotal rest := rfl
    by_cases nothing : p.amount.toNat = 0
    · rw [List.filter_cons_of_neg (by simpa using nothing), ih, all, nothing, Nat.zero_add]
    · rw [List.filter_cons_of_pos (by simpa using nothing), all, ← ih]
      rfl

theorem ys_append {proofs others : List (Proof S)} {ys ys' : List S.Point}
    (h : Proof.ys proofs = .ok ys) (h' : Proof.ys others = .ok ys') :
    Proof.ys (proofs ++ others) = .ok (ys ++ ys') :=
  mapM_eq_ok.2 (List.rel_append (mapM_eq_ok.1 h) (mapM_eq_ok.1 h'))

theorem exists_ys {proofs : List (Proof S)} (points : ∀ p ∈ proofs, ∃ y, p.y = .ok y) :
    ∃ ys, Proof.ys proofs = .ok ys := by
  obtain ⟨ys, each⟩ := exists_forall₂ (R := fun p y => Proof.y p = .ok y) points
  exact ⟨ys, mapM_eq_ok.2 each⟩

/-- Proofs under different points have different secrets. -/
theorem nodup_secrets_of_ys {proofs : List (Proof S)} {ys : List S.Point}
    (points : Proof.ys proofs = .ok ys) (distinct : ys.Nodup) :
    (proofs.map (·.secret)).Nodup := by
  have bySecret : List.Forall₂ (fun y secret => Blind.pointOf S (Secret.toBytes secret) = .ok y) ys
      (proofs.map (·.secret)) := List.forall₂_map_right_iff.2 (mapM_eq_ok.1 points).flip
  exact nodup_of_forall₂ bySecret distinct fun _ _ _ _ _ point point' =>
    Except.ok.inj (point.symm.trans point')

theorem hasRepeated_eq_false {proofs : List (Proof S)} :
    hasRepeated proofs = false ↔ (proofs.map (·.secret)).Nodup := by
  induction proofs with
  | nil => simp [hasRepeated]
  | cons p rest ih => simp [hasRepeated, ih]

/-- The proof that a promise for an output comes to when nothing is wrong with it. -/
def ofSignature (promise : Promise S) (r : S.Scalar) (secret : Secret) (signature : S.Point) :
    Proof S :=
  ⟨promise.amount, promise.keysetId, secret, signature, promise.dleq.map fun d => ⟨d.e, d.s, r⟩⟩

theorem ofPromise_eq_ok {keys : Keys S} {checked : Bool} {promise : Promise S} {r : S.Scalar}
    {secret : Secret} {p : Proof S} :
    ofPromise keys checked promise r secret = .ok p ↔
      ∃ key signature, keys.get? promise.amount = some key ∧
        Blind.unblind S promise.signature r key = .ok signature ∧
        p = ofSignature promise r secret signature ∧
        (checked → p.dleq.isSome → p.isSignedBy key) := by
  rw [ofPromise]
  constructor
  · intro h
    obtain ⟨key, known, h⟩ := bind_eq_ok.1 h
    obtain ⟨signature, unblinded, h⟩ := bind_eq_ok.1 h
    obtain ⟨unrefused, h⟩ := guard_eq_ok.1 h
    cases h
    refine ⟨key, signature, elim_eq_ok.1 known, unblinded, rfl, fun asked some => ?_⟩
    simpa [asked, some] using unrefused
  · rintro ⟨key, signature, known, unblinded, rfl, verified⟩
    refine bind_eq_ok.2 ⟨key, elim_eq_ok.2 known, bind_eq_ok.2 ⟨signature, unblinded, ?_⟩⟩
    refine guard_eq_ok.2 ⟨fun refused => ?_, rfl⟩
    simp only [Bool.and_eq_true, Bool.not_eq_true'] at refused
    obtain ⟨⟨asked, some⟩, unsigned⟩ := refused
    exact absurd (verified asked some) (by simpa [ofSignature] using unsigned)

/-- The proofs of promises are made in turn of a promise and the output at its place. -/
theorem proofs_eq_ok {premint : Premint S} {promises : List (Promise S)} {keys : Keys S}
    {checked : Bool} {proofs : List (Proof S)} :
    premint.proofs promises keys checked = .ok proofs ↔
      promises.length = premint.size ∧
        List.Forall₂ (fun (promise, item) p =>
          ofPromise keys checked promise item.factor item.secret = .ok p)
          (promises.zip premint.items) proofs := by
  have lengths : (promises.length ≠ premint.factors.length ∨
      promises.length ≠ premint.secrets.length) ↔ ¬promises.length = premint.size := by
    simp [Premint.factors, Premint.secrets, Premint.size]
  have beside : promises.zip (premint.factors.zip premint.secrets) =
      (promises.zip premint.items).map fun (promise, item) =>
        (promise, item.factor, item.secret) := by
    rw [Premint.factors, Premint.secrets, List.zip_map', List.zip_map_right]
    rfl
  rw [Premint.proofs, ofPromises, if_congr lengths rfl rfl, beside]
  by_cases same : promises.length = premint.size
  · rw [if_neg (not_not.2 same), mapM_eq_ok, List.forall₂_map_left_iff]
    exact ⟨fun h => ⟨same, h⟩, fun h => h.2⟩
  · rw [if_pos same]
    exact ⟨fun h => (nomatch h), fun h => absurd h.1 same⟩

end Proof

theorem Promise.make_eq_ok {nonce k : S.Scalar} {amount : Amount} {output : Output S}
    {promise : Promise S} (h : Promise.make nonce k amount output = .ok promise) :
    ∃ signature dleq, Blind.sign S k output.blinded = .ok signature ∧
      Dleq.prove S nonce k output.blinded signature = .ok dleq ∧
      promise = ⟨amount, output.keysetId, signature, some dleq⟩ := by
  obtain ⟨signature, signed, h⟩ := bind_eq_ok.1 h
  obtain ⟨dleq, proved, h⟩ := bind_eq_ok.1 h
  cases h
  exact ⟨signature, dleq, mapError_eq_ok.1 signed, proved, rfl⟩

theorem PremintItem.make_eq_ok {id : KeysetId} {amount : Amount} {secret : Secret}
    {factor : S.Scalar} {item : PremintItem S}
    (h : PremintItem.make id amount secret factor = .ok item) :
    Blind.blind S secret.toBytes factor = .ok item.output.blinded ∧
      item = ⟨⟨amount, id, item.output.blinded⟩, secret, factor⟩ := by
  obtain ⟨blinded, hidden, h⟩ := bind_eq_ok.1 h
  cases h
  exact ⟨hidden, rfl⟩

namespace Premint

variable {premint : Premint S} {promises : List (Promise S)} {keys : Keys S} {checked : Bool}
  {proofs : List (Proof S)}

theorem length_amounts (premint : Premint S) : premint.amounts.length = premint.size :=
  List.length_map _

theorem length_secrets (premint : Premint S) : premint.secrets.length = premint.size :=
  List.length_map _

theorem amounts_of_proofs (h : premint.proofs promises keys checked = .ok proofs) :
    proofs.map (·.amount) = promises.map (·.amount) := by
  obtain ⟨length, made⟩ := Proof.proofs_eq_ok.1 h
  have amounts := map_eq_of_forall₂ (f := (·.1.amount)) (g := (·.amount)) made
    fun (promise, item) p made => by
      obtain ⟨_, _, _, _, rfl, _⟩ := Proof.ofPromise_eq_ok.1 made
      rfl
  have first : ((promises.zip premint.items).map Prod.fst).map (·.amount) =
      promises.map (·.amount) := by rw [List.map_fst_zip (Nat.le_of_eq length)]
  rw [← amounts, ← first, List.map_map]
  rfl

theorem secrets_of_proofs (h : premint.proofs promises keys checked = .ok proofs) :
    proofs.map (·.secret) = premint.secrets := by
  obtain ⟨length, made⟩ := Proof.proofs_eq_ok.1 h
  have secrets := map_eq_of_forall₂ (f := (·.2.secret)) (g := (·.secret)) made
    fun (promise, item) p made => by
      obtain ⟨_, _, _, _, rfl, _⟩ := Proof.ofPromise_eq_ok.1 made
      rfl
  have second : ((promises.zip premint.items).map Prod.snd).map (·.secret) = premint.secrets := by
    rw [List.map_snd_zip (Nat.le_of_eq length.symm), Premint.secrets]
  rw [← secrets, ← second, List.map_map]
  rfl

end Premint

/-! ## Rows -/

namespace ProofRow

variable {status : ProofStatus} {mintId : Option String} {proofs : List (Proof S)}
  {rows : List (ProofRow S)}

theorem make_eq_ok {p : Proof S} {row : ProofRow S} :
    make status mintId p = .ok row ↔ p.y = .ok row.y ∧ row = ⟨p, row.y, status, mintId, none⟩ := by
  rw [make, bind_eq_ok]
  constructor
  · rintro ⟨y, known, h⟩
    cases h
    exact ⟨known, rfl⟩
  · rintro ⟨known, same⟩
    exact ⟨row.y, known, congrArg Except.ok same.symm⟩

/-- Proofs whose secrets have points can be kept. -/
theorem exists_ofProofs (points : ∀ p ∈ proofs, ∃ y, p.y = .ok y) (status : ProofStatus)
    (mintId : Option String) : ∃ rows, ofProofs proofs status mintId = .ok rows := by
  obtain ⟨rows, made⟩ := exists_forall₂ (R := fun p row => make status mintId p = .ok row)
    fun p mem => by
      obtain ⟨y, point⟩ := points p mem
      exact ⟨⟨p, y, status, mintId, none⟩, make_eq_ok.2 ⟨point, rfl⟩⟩
  exact ⟨rows, mapM_eq_ok.2 made⟩

theorem proofs_of_ofProofs (h : ofProofs proofs status mintId = .ok rows) :
    rows.map (·.proof) = proofs := by
  have same := map_eq_of_forall₂ (f := id) (g := ProofRow.proof) (mapM_eq_ok.1 h)
    fun p row made => (congrArg ProofRow.proof (make_eq_ok.1 made).2).symm
  rw [← same, List.map_id]

theorem ys_of_ofProofs (h : ofProofs proofs status mintId = .ok rows) :
    Proof.ys proofs = .ok (rows.map (·.y)) := by
  rw [Proof.ys, mapM_eq_ok, List.forall₂_map_right_iff]
  exact (mapM_eq_ok.1 h).imp fun p row made => (make_eq_ok.1 made).1

/-- What there is to a row that has just been made. -/
theorem of_mem_ofProofs (h : ofProofs proofs status mintId = .ok rows) {row : ProofRow S}
    (mem : row ∈ rows) : row.proof ∈ proofs ∧ row.proof.y = .ok row.y ∧ row.status = status ∧
      row.mintId = mintId ∧ row.meltId = none := by
  obtain ⟨p, given, made⟩ := exists_of_mem_forall₂ (mapM_eq_ok.1 h) mem
  obtain ⟨point, same⟩ := make_eq_ok.1 made
  rw [same]
  exact ⟨given, point, rfl, rfl, rfl⟩

theorem free_of_ofProofs (h : ofProofs proofs status mintId = .ok rows) (free : status ≠ .spent)
    (row : ProofRow S) (mem : row ∈ rows) : row.status ≠ .spent := by
  rw [(of_mem_ofProofs h mem).2.2.1]
  exact free

end ProofRow

end Chaumian
