import Chaumian.Proofs.Denominations
import Chaumian.Proofs.Mint.Conservation
import Chaumian.Proofs.Mint.Keysets

/-!
# What a mint grants

A granted request says what has been checked; here is the converse. A `Complete` mint has a key for
every power of two in each of its keysets, and publishes them under the identifier that follows from
them. It exchanges any proofs that it has signed and not taken for outputs of the same value, as
long as its proofs of equality can be made, and refuses proofs of which it has taken one before.
What it has taken stays taken.
-/

namespace Chaumian

variable {S : Suite}

/-! ## The parts of an amount -/

namespace Denominations

variable {d : Denominations} {a : Amount} {parts : List Amount}

/-- With all 64 denominations every amount is made up. -/
theorem exists_decompose (all : d.order = 64) (a : Amount) : ∃ parts, d.decompose a = .ok parts :=
  ⟨_, decompose_eq_ok.2 ⟨all ▸ a.lt, rfl⟩⟩

theorem exists_pow_of_mem_decompose (h : d.decompose a = .ok parts) {b : Amount} (mem : b ∈ parts) :
    ∃ n, b.toNat = 2 ^ n := by
  obtain ⟨-, rfl⟩ := decompose_eq_ok.1 h
  obtain ⟨n, -, part⟩ := List.mem_filterMap.1 mem
  split at part
  · unfold Amount.ofNat? at part
    split at part <;> cases part
    exact ⟨n, rfl⟩
  · cases part

theorem length_decompose_le (h : d.decompose a = .ok parts) : parts.length ≤ 64 := by
  obtain ⟨-, rfl⟩ := decompose_eq_ok.1 h
  refine (List.length_filterMap_le _ _).trans ?_
  rw [List.length_range]
  exact d.le

end Denominations

namespace Mint

variable {m m' : Mint S} {proofs : List (Proof S)} {ys : List S.Point}

/-! ## Checking proofs -/

theorem checkSignatures_eq_ok :
    m.checkSignatures proofs = .ok () ↔ ∀ p ∈ proofs, m.Signed p := by
  induction proofs with
  | nil => exact ⟨fun _ => List.forall_mem_nil _, fun _ => rfl⟩
  | cons p rest ih =>
    rw [checkSignatures, bind_eq_ok, List.forall_mem_cons, ← ih]
    constructor
    · rintro ⟨pair, paired, h⟩
      obtain ⟨_, verified, h⟩ := bind_eq_ok.1 h
      exact ⟨⟨pair, paired, mapError_eq_ok.1 verified⟩, h⟩
    · rintro ⟨⟨pair, paired, verified⟩, h⟩
      exact ⟨pair, paired, bind_eq_ok.2 ⟨(), mapError_eq_ok.2 verified, h⟩⟩

theorem Accepts.checkInputs (h : m.Accepts proofs ys) : m.checkInputs proofs = .ok ys := by
  refine bind_eq_ok.2 ⟨ys, mapError_eq_ok.2 h.points, ?_⟩
  refine guard_eq_ok.2 ⟨by simpa using h.distinct, guard_eq_ok.2 ⟨by simpa using h.unspent, ?_⟩⟩
  exact bind_eq_ok.2 ⟨(), h.signed, rfl⟩

/-- The refusal of proofs of which one has been taken before. -/
def alreadySpent : Refusal := .of .alreadySpent "Token already spent."

theorem checkInputs_of_spent (points : Proof.ys proofs = .ok ys) (distinct : ys.Nodup)
    {y : S.Point} (mem : y ∈ ys) (taken : y ∈ m.spent) :
    m.checkInputs proofs = .error alreadySpent := by
  have spent : ys.any (m.spent.contains ·) := by
    rw [List.any_eq_true]
    exact ⟨y, mem, by simpa using taken⟩
  unfold Mint.checkInputs
  rw [points]
  dsimp only [Except.mapError, bind, Except.bind]
  rw [if_neg (by simpa using distinct), if_pos spent]
  rfl

theorem split_of_spent (nonces : Nat → S.Scalar) {request : SplitRequest S}
    (points : Proof.ys request.proofs = .ok ys) (distinct : ys.Nodup) {y : S.Point} (mem : y ∈ ys)
    (taken : y ∈ m.spent) : m.split nonces request = .error alreadySpent := by
  unfold split
  rw [checkInputs_of_spent points distinct mem taken]
  rfl

/-! ## Proofs that are valid -/

/-- A proof that the mint has signed, and whose proof of equality holds if it has one. -/
def Valid (m : Mint S) (p : Proof S) : Prop :=
  ∃ pair, m.keyPair p.keysetId p.amount = .ok pair ∧
    Blind.verify S pair.secretKey p.signature p.secret.toBytes = .ok () ∧
    (p.dleq.isSome → p.isSignedBy (S.base pair.secretKey))

theorem Valid.signed {p : Proof S} (h : m.Valid p) : m.Signed p := by
  obtain ⟨pair, paired, verified, -⟩ := h
  exact ⟨pair, paired, verified⟩

theorem Valid.of_keysets {p : Proof S} (h : m.Valid p) (same : m'.keysets = m.keysets) :
    m'.Valid p := by
  obtain ⟨pair, paired, verified, equal⟩ := h
  refine ⟨pair, ?_, verified, equal⟩
  unfold keyPair at paired ⊢
  rw [same]
  exact paired

/-- Whether its proof of equality is checked or not, what a proof is made of holds. -/
theorem Sound.valid_of_proofs {G : Type} [AddCommGroup G] (laws : S.Laws G) (sound : m.Sound)
    {k : Keyset S} (published : m.keyset k.id = .ok k) {premint : Premint S}
    {promises : List (Promise S)}
    (promised : List.Forall₂ (fun output promise => ∃ amount, m.Promises amount output promise)
      premint.outputs promises)
    (own : ∀ item ∈ premint.items, item.output.keysetId = k.id ∧
      Blind.blind S item.secret.toBytes item.factor = .ok item.output.blinded) {checked : Bool}
    (made : premint.proofs promises k.keys checked = .ok proofs) : ∀ p ∈ proofs, m.Valid p := by
  have promised := List.forall₂_map_left_iff.1 promised
  obtain ⟨-, made⟩ := Proof.proofs_eq_ok.1 made
  intro p mem
  obtain ⟨⟨promise, item⟩, both, made⟩ := exists_of_mem_forall₂ made mem
  obtain ⟨id, hidden⟩ := own item (List.of_mem_zip both).2
  obtain ⟨amount, pair, nonce, paired, signed⟩ := (List.forall₂_iff_zip.1 promised.flip).2 both
  have known := sound.get?_keys published (id ▸ paired)
  obtain ⟨p', made', sameAmount, sameId, -, verified⟩ :=
    Proof.ofPromise_make laws signed hidden known true
  obtain ⟨key, signature, found, unblinded, rfl, -⟩ := Proof.ofPromise_eq_ok.1 made
  obtain ⟨key', signature', found', unblinded', rfl, equal⟩ := Proof.ofPromise_eq_ok.1 made'
  cases found.symm.trans found'
  cases unblinded.symm.trans unblinded'
  refine ⟨pair, by rw [sameAmount, sameId]; exact paired, verified, fun some => ?_⟩
  obtain ⟨_, _, _, _, rfl⟩ := Promise.make_eq_ok signed
  cases known.symm.trans found
  exact equal rfl some

/-! ## Mints with all their keys -/

/-- A mint whose keysets are published under the identifiers of their keys, have a key for each
power of two, and are at least one. -/
structure Complete (m : Mint S) : Prop where
  current : m.keysets ≠ []
  verified : ∀ keyset ∈ m.keysets, keyset.toPublic.verifies
  keys : ∀ keyset ∈ m.keysets, ∀ (a : Amount) (n : Nat), a.toNat = 2 ^ n →
    ∃ pair, keyset.get? a = some pair

theorem Complete.of_keysets (complete : m.Complete) (same : m'.keysets = m.keysets) :
    m'.Complete :=
  ⟨same.symm ▸ complete.current, same.symm ▸ complete.verified, same.symm ▸ complete.keys⟩

theorem Complete.exists_current (complete : m.Complete) : ∃ k, m.currentKeyset = .ok k := by
  obtain ⟨keyset, last⟩ := Option.ne_none_iff_exists'.1
    (mt List.getLast?_eq_none_iff.1 complete.current)
  rw [currentKeyset, last]
  exact ⟨_, rfl⟩

theorem Complete.verifies (complete : m.Complete) {id : KeysetId} {k : Keyset S}
    (published : m.keyset id = .ok k) : k.verifies := by
  obtain ⟨keyset, mem, -, -, rfl⟩ := keyset_eq_ok published
  exact complete.verified keyset mem

theorem Complete.exists_keyPair (complete : m.Complete) {id : KeysetId} {k : Keyset S}
    (published : m.keyset id = .ok k) {a : Amount} {n : Nat} (power : a.toNat = 2 ^ n) :
    ∃ keyset ∈ m.keysets, ∃ pair, keyset.get? a = some pair ∧ m.keyPair id a = .ok pair := by
  obtain ⟨keyset, mem, found, -, -⟩ := keyset_eq_ok published
  obtain ⟨pair, known⟩ := complete.keys keyset mem a n power
  refine ⟨keyset, mem, pair, known, ?_⟩
  rw [keyPair, found]
  dsimp only
  rw [known]

/-- A keyset in which there are keys for an amount has been published. -/
theorem exists_keyset_of_keyPair {id : KeysetId} {a : Amount} {pair : KeyPair S}
    (paired : m.keyPair id a = .ok pair) : ∃ k, m.keyset id = .ok k := by
  unfold keyPair at paired
  split at paired
  · cases paired
  · rename_i own found
    rw [keyset, found]
    exact ⟨_, rfl⟩

/-- So a wallet that knows a keyset can make up every amount. -/
theorem Complete.order_eq (complete : m.Complete) (sound : m.Sound) {id : KeysetId} {k : Keyset S}
    (published : m.keyset id = .ok k) : k.keys.denominations.order = 64 := by
  have power : (Amount.clamp (2 ^ 63)).toNat = 2 ^ 63 := by decide
  obtain ⟨-, -, pair, -, paired⟩ := complete.exists_keyPair published power
  have known := sound.get?_keys published paired
  obtain ⟨e, found, -⟩ := Option.map_eq_some_iff.1 known
  have mem : Amount.clamp (2 ^ 63) ∈ k.keys.entries.map (·.1) := by
    have here : e.1 = Amount.clamp (2 ^ 63) := by simpa using List.find?_some found
    exact here ▸ List.mem_map_of_mem (List.mem_of_find?_eq_some found)
  refine Nat.le_antisymm k.keys.denominations.le ?_
  exact Denominations.lt_order_covering.2 ⟨_, mem, Nat.le_of_eq power.symm⟩

/-- A mint that has done nothing yet is complete. -/
theorem complete_of_create (h : create S = .ok m) : m.Complete := by
  obtain ⟨keysets, made, h⟩ := bind_eq_ok.1 h
  cases h
  have each (keyset : SecretKeyset S) (mem : keyset ∈ keysets) :
      ∃ path, SecretKeyset.generate S seed path .all = .ok keyset := by
    obtain ⟨path, -, generated⟩ := exists_of_mem_forall₂ (mapM_eq_ok.1 made) mem
    exact ⟨path, generated⟩
  refine ⟨?_, fun keyset mem => ?_, fun keyset mem a n power => ?_⟩
  · intro none
    have length := (mapM_eq_ok.1 made).length_eq
    rw [show keysets = [] from none, List.length_nil] at length
    exact absurd length (by decide)
  · obtain ⟨path, generated⟩ := each keyset mem
    obtain ⟨entries, -, h⟩ := bind_eq_ok.1 generated
    cases h
    exact decide_eq_true rfl
  · obtain ⟨path, generated⟩ := each keyset mem
    obtain ⟨entries, derived, h⟩ := bind_eq_ok.1 generated
    cases h
    have below : n < 64 := (Nat.pow_lt_pow_iff_right (by decide)).1 (power ▸ a.lt)
    obtain ⟨e, there, made⟩ := exists_of_mem_forall₂ (mapM_eq_ok.1 derived).flip
      (List.mem_range.2 below : n ∈ List.range Denominations.all.order)
    obtain ⟨secret, -, made⟩ := bind_eq_ok.1 made
    have here : e.1 = a := by
      cases made
      refine Amount.ext (Eq.trans ?_ power.symm)
      exact Nat.min_eq_left (Nat.le_sub_one_of_lt (Nat.pow_lt_pow_right (by decide) below))
    have some : (entries.find? (·.1 = a)).isSome := by
      rw [List.find?_isSome]
      exact ⟨e, there, by simpa using here⟩
    obtain ⟨found, known⟩ := Option.isSome_iff_exists.1 some
    exact ⟨found.2, by rw [SecretKeyset.get?, known]; rfl⟩

/-! ## Granting an exchange -/

/-- Nothing degenerate comes of signing an output with a nonce, whichever key of the mint it is
signed with. -/
def Proves (m : Mint S) (nonce : S.Scalar) (blinded : S.Point) : Prop :=
  ∀ keyset ∈ m.keysets, ∀ amount pair, keyset.get? amount = some pair →
    ∀ signature, Blind.sign S pair.secretKey blinded = .ok signature →
      ∃ d, Dleq.prove S nonce pair.secretKey blinded signature = .ok d

section

variable {G : Type} [AddCommGroup G] (laws : S.Laws G)

include laws

theorem Complete.exists_sign (complete : m.Complete) {id : KeysetId} {k : Keyset S}
    (published : m.keyset id = .ok k) {output : Output S} (named : output.keysetId = id)
    {amount : Amount} {n : Nat} (power : amount.toNat = 2 ^ n) {nonce : S.Scalar}
    (proves : m.Proves nonce output.blinded) :
    ∃ promise, m.sign nonce amount output = .ok promise := by
  obtain ⟨keyset, mem, pair, known, paired⟩ := complete.exists_keyPair published power
  obtain ⟨signature, multiple⟩ := laws.exists_mul pair.secretKey output.blinded
  have signed : Blind.sign S pair.secretKey output.blinded = .ok signature :=
    mapError_eq_ok.2 multiple
  obtain ⟨d, proved⟩ := proves keyset mem _ pair known signature signed
  refine ⟨⟨amount, output.keysetId, signature, some d⟩, bind_eq_ok.2 ⟨pair, ?_, ?_⟩⟩
  · rw [named]
    exact paired
  · refine mapError_eq_ok.2 (bind_eq_ok.2 ⟨signature, ?_, bind_eq_ok.2 ⟨d, proved, rfl⟩⟩)
    exact mapError_eq_ok.2 signed

/-- Outputs are signed for any powers of two, whatever amounts they are of themselves. -/
theorem Complete.exists_signAll (complete : m.Complete) {id : KeysetId} {k : Keyset S}
    (published : m.keyset id = .ok k) {wanted : List (Amount × Output S)}
    (powers : ∀ w ∈ wanted, w.2.keysetId = id ∧ ∃ n, w.1.toNat = 2 ^ n)
    {nonces : Nat → S.Scalar}
    (proves : ∀ w ∈ wanted, ∀ i, m.Proves (nonces i) w.2.blinded) :
    ∃ promises, m.signAll nonces wanted = .ok promises := by
  have each : ∀ w ∈ wanted.zipIdx, ∃ promise, m.sign (nonces w.2) w.1.1 w.1.2 = .ok promise := by
    intro w mem
    have given := List.fst_mem_of_mem_zipIdx mem
    obtain ⟨named, n, power⟩ := powers w.1 given
    exact complete.exists_sign laws published named power (proves w.1 given w.2)
  obtain ⟨promises, signed⟩ := exists_forall₂ each
  exact ⟨promises, mapM_eq_ok.2 signed⟩

theorem Complete.exists_signOutputs (complete : m.Complete) {id : KeysetId} {k : Keyset S}
    (published : m.keyset id = .ok k) {outputs : List (Output S)}
    (powers : ∀ o ∈ outputs, o.keysetId = id ∧ ∃ n, o.amount.toNat = 2 ^ n)
    {nonces : Nat → S.Scalar} (proves : ∀ o ∈ outputs, ∀ i, m.Proves (nonces i) o.blinded) :
    ∃ promises, m.signOutputs nonces outputs = .ok promises :=
  complete.exists_signAll laws published (List.forall_mem_map.2 powers)
    (List.forall_mem_map.2 proves)

/-- Proofs that the mint accepts are exchanged for outputs of their value. -/
theorem Complete.exists_split (complete : m.Complete) {id : KeysetId} {k : Keyset S}
    (published : m.keyset id = .ok k) {request : SplitRequest S} {total : Amount}
    (accepted : m.Accepts request.proofs ys) (given : Proof.total request.proofs = .ok total)
    (wanted : Output.total request.outputs = .ok total)
    (powers : ∀ o ∈ request.outputs, o.keysetId = id ∧ ∃ n, o.amount.toNat = 2 ^ n)
    {nonces : Nat → S.Scalar} (proves : ∀ o ∈ request.outputs, ∀ i, m.Proves (nonces i) o.blinded) :
    ∃ answer, m.split nonces request = .ok (answer, { m with spent := m.spent ++ ys }) := by
  obtain ⟨promises, signed⟩ := complete.exists_signOutputs laws published powers proves
  refine ⟨⟨promises⟩, bind_eq_ok.2 ⟨ys, accepted.checkInputs, bind_eq_ok.2 ⟨total, ?_,
    bind_eq_ok.2 ⟨total, ?_, guard_eq_ok.2 ⟨not_not.2 rfl, bind_eq_ok.2 ⟨promises, signed, rfl⟩⟩⟩⟩⟩⟩
  · exact mapError_eq_ok.2 given
  · exact mapError_eq_ok.2 wanted

end

/-! ## In the course of time -/

/-- A later state of a mint: its keysets are the same, and what it has taken stays taken. -/
structure Follows (m' m : Mint S) : Prop where
  keysets : m'.keysets = m.keysets
  spent : ∀ y ∈ m.spent, y ∈ m'.spent

theorem Follows.refl (m : Mint S) : m.Follows m := ⟨rfl, fun _ taken => taken⟩

theorem Follows.trans {m'' : Mint S} (second : m''.Follows m') (first : m'.Follows m) :
    m''.Follows m :=
  ⟨second.keysets.trans first.keysets, fun y taken => second.spent y (first.spent y taken)⟩

theorem follows_serve (lightning : Lightning) (source : MintSource S) (m : Mint S)
    (call : Wallet.MintCall S) : (m.serve lightning source call).2.Follows m := by
  have settled {α : Type} (outcome : Except Refusal (α × Mint S))
      (granted : ∀ answer m', outcome = .ok (answer, m') → m'.Follows m) :
      (m.settle outcome).2.Follows m := by
    rcases outcome with _ | ⟨answer, m'⟩
    · exact .refl m
    · exact granted answer m' rfl
  cases call with
  | quote request =>
    refine settled _ fun answer m' granted => ?_
    rw [(quote_eq_ok granted).2]
    exact ⟨rfl, fun _ taken => taken⟩
  | mint request =>
    refine settled _ fun answer m' granted => ?_
    obtain ⟨quote, minted⟩ := mint_eq_ok granted
    rw [minted.changed]
    exact ⟨rfl, fun _ taken => taken⟩
  | split request =>
    refine settled _ fun answer m' granted => ?_
    obtain ⟨ys, split⟩ := split_eq_ok granted
    rw [split.changed]
    exact ⟨rfl, fun _ => List.mem_append_left _⟩
  | melt request =>
    refine settled _ fun answer m' granted => ?_
    obtain ⟨quote, ys, melted⟩ := melt_eq_ok granted
    rw [melted.changed]
    exact ⟨rfl, fun _ => List.mem_append_left _⟩
  | keys | keyset | keysets | info | meltQuote | checkState => exact .refl m

theorem follows_serveAll (lightning : Lightning) (m : Mint S)
    (calls : List (MintSource S × Wallet.MintCall S)) :
    (serveAll lightning m calls).2.Follows m := by
  induction calls generalizing m with
  | nil => exact .refl m
  | cons call rest ih => exact (ih _).trans (follows_serve lightning call.1 m call.2)

end Mint

end Chaumian
