import Chaumian.Proofs.BlindSignature
import Chaumian.Proofs.Mint.Requests

/-!
# A mint signs with the keys it has published

The keys a mint publishes are the public keys of those it signs with, as long as no keyset has two
keys for one amount and no two keysets have one identifier. What it has promised for outputs of
one's own then comes to proofs that the mint takes for its own.
-/

namespace Chaumian

variable {S : Suite}

/-! ## Keys by amount -/

namespace Keys

theorem find?_insertEntry {α : Type} (a : Amount) (key : α) (entries : List (Amount × α))
    (b : Amount) : (insertEntry a key entries).find? (·.1 = b) =
      if a = b then some (a, key) else entries.find? (·.1 = b) := by
  induction entries with
  | nil => by_cases same : a = b <;> simp [insertEntry, same]
  | cons e rest ih =>
    obtain ⟨c, old⟩ := e
    unfold insertEntry
    by_cases before : a < c
    · rw [if_pos before]
      by_cases same : a = b <;> simp [same]
    · rw [if_neg before]
      by_cases replaced : a = c
      · rw [if_pos replaced]
        by_cases same : a = b
        · simp [same]
        · simp [same, ← replaced]
      · rw [if_neg replaced]
        by_cases here : c = b
        · have other : a ≠ b := fun same => replaced (same.trans here.symm)
          simp [here, other]
        · simp [here, ih]

theorem get?_insert (keys : Keys S) (a : Amount) (key : S.Point) (b : Amount) :
    (keys.insert a key).get? b = if a = b then some key else keys.get? b := by
  rw [get?, insert, find?_insertEntry]
  split <;> rfl

/-- Where no amount has two entries, the key of an amount is the one of its entry. -/
theorem get?_ofList {entries : List (Amount × S.Point)} (distinct : (entries.map (·.1)).Nodup)
    (a : Amount) : (ofList entries).get? a = (entries.find? (·.1 = a)).map (·.2) := by
  -- The entries may be inserted into any keys, which are looked up where there is no entry.
  have general (keys : Keys S) : (entries.foldl (fun keys e => keys.insert e.1 e.2) keys).get? a =
      ((entries.find? (·.1 = a)).map (·.2)).or (keys.get? a) := by
    induction entries generalizing keys with
    | nil => rfl
    | cons e rest ih =>
      rw [List.map_cons, List.nodup_cons] at distinct
      rw [List.foldl_cons, ih distinct.2, get?_insert]
      by_cases here : e.1 = a
      · have last : rest.find? (·.1 = a) = none := by
          refine List.find?_eq_none.2 fun other mem same => distinct.1 ?_
          have same : other.1 = a := by simpa using same
          exact here.trans same.symm ▸ List.mem_map_of_mem mem
        simp [here, last]
      · simp [here]
  rw [ofList, general]
  exact Option.or_none

end Keys

namespace SecretKeyset

/-- The public keys are those of the secret keys, amount by amount. -/
theorem get?_publicKeys {keyset : SecretKeyset S} (distinct : (keyset.entries.map (·.1)).Nodup)
    (amount : Amount) : (publicKeys keyset.entries).get? amount =
      (keyset.get? amount).map fun pair => S.base pair.secretKey := by
  have amounts : (keyset.entries.map fun e => (e.1, e.2.publicKey)).map (·.1) =
      keyset.entries.map (·.1) := by
    rw [List.map_map]
    rfl
  rw [publicKeys, Keys.get?_ofList (amounts.symm ▸ distinct), List.find?_map, get?,
    Option.map_map, Option.map_map]
  exact congrArg (Option.map · _) (funext fun e => e.2.publicKey_eq)

/-- The keysets that are generated have no two keys for one amount. -/
theorem nodup_of_generate {seed path : String} {d : Denominations} {keyset : SecretKeyset S}
    (h : generate S seed path d = .ok keyset) : (keyset.entries.map (·.1)).Nodup := by
  obtain ⟨entries, made, h⟩ := bind_eq_ok.1 h
  cases h
  have amounts := map_eq_of_forall₂ (f := fun order => Amount.clamp (Nat.pow 2 order))
    (g := fun e : Amount × KeyPair S => e.1) (mapM_eq_ok.1 made) fun order e made => by
      obtain ⟨k, -, made⟩ := bind_eq_ok.1 made
      cases made
      rfl
  rw [← amounts]
  refine List.Nodup.map_on (fun i mem j mem' same => ?_) List.nodup_range
  -- All powers of two below the 64th fit an amount as they are.
  have exact (n : Nat) (mem : n ∈ List.range d.order) :
      (Amount.clamp (Nat.pow 2 n)).toNat = Nat.pow 2 n := by
    have below : Nat.pow 2 n < Nat.pow 2 64 :=
      Nat.pow_lt_pow_right (by decide) (Nat.lt_of_lt_of_le (List.mem_range.1 mem) d.le)
    exact Nat.min_eq_left (Nat.le_sub_one_of_lt below)
  have same := congrArg Amount.toNat same
  rw [exact i mem, exact j mem'] at same
  exact Nat.pow_right_injective (Nat.le_refl 2) same

end SecretKeyset

/-! ## Keysets by identifier -/

namespace Mint

variable {m : Mint S}

/-- No two keysets have one identifier, and none has two keys for one amount. -/
structure Sound (m : Mint S) : Prop where
  ids : (m.keysets.map (·.id)).Nodup
  amounts : ∀ keyset ∈ m.keysets, (keyset.entries.map (·.1)).Nodup

theorem sound_of_create (h : create S = .ok m) (ids : (m.keysets.map (·.id)).Nodup) : m.Sound := by
  refine ⟨ids, fun keyset mem => ?_⟩
  obtain ⟨keysets, made, h⟩ := bind_eq_ok.1 h
  cases h
  obtain ⟨path, -, generated⟩ := exists_of_mem_forall₂ (mapM_eq_ok.1 made) mem
  exact SecretKeyset.nodup_of_generate generated

theorem keyset_eq_ok {id : KeysetId} {k : Keyset S} (h : m.keyset id = .ok k) :
    ∃ keyset ∈ m.keysets, m.keysets.find? (·.id = id) = some keyset ∧ keyset.id = id ∧
      k = keyset.toPublic := by
  unfold keyset at h
  split at h
  · rename_i keyset found
    cases h
    exact ⟨keyset, List.mem_of_find?_eq_some found, found,
      by simpa using List.find?_some found, rfl⟩
  · cases h

theorem id_of_keyset {id : KeysetId} {k : Keyset S} (h : m.keyset id = .ok k) : k.id = id := by
  obtain ⟨_, -, -, same, rfl⟩ := keyset_eq_ok h
  exact same

/-- The current keyset is the keyset of its identifier. -/
theorem Sound.keyset_of_current (sound : m.Sound) {k : Keyset S} (h : m.currentKeyset = .ok k) :
    m.keyset k.id = .ok k := by
  unfold currentKeyset at h
  split at h
  · rename_i keyset last
    cases h
    have found := find?_of_nodup sound.ids (List.mem_of_getLast? last)
    rw [Mint.keyset, SecretKeyset.toPublic, found]
    rfl
  · cases h

/-- The key that is published for an amount belongs to the one that the mint signs it with. -/
theorem Sound.get?_keys (sound : m.Sound) {id : KeysetId} {k : Keyset S}
    (published : m.keyset id = .ok k) {amount : Amount} {pair : KeyPair S}
    (paired : m.keyPair id amount = .ok pair) :
    k.keys.get? amount = some (S.base pair.secretKey) := by
  obtain ⟨keyset, mem, found, -, rfl⟩ := keyset_eq_ok published
  unfold keyPair at paired
  rw [found] at paired
  dsimp only at paired
  split at paired
  · rename_i p known
    cases paired
    rw [SecretKeyset.toPublic, SecretKeyset.get?_publicKeys (sound.amounts keyset mem), known]
    rfl
  · cases paired

/-! ## Proofs of what was promised -/

/-- The mint takes a proof for its own. -/
def Signed (m : Mint S) (p : Proof S) : Prop :=
  ∃ pair, m.keyPair p.keysetId p.amount = .ok pair ∧
    Blind.verify S pair.secretKey p.signature p.secret.toBytes = .ok ()

theorem Signed.exists_y {p : Proof S} (h : m.Signed p) : ∃ y, p.y = .ok y := by
  obtain ⟨_, -, verified⟩ := h
  obtain ⟨y, point, -⟩ := bind_eq_ok.1 verified
  exact ⟨y, point⟩

/-- What the mint has promised for one's own outputs under one keyset comes to proofs, and the mint
takes all of them for its own. -/
theorem Sound.exists_proofs {G : Type} [AddCommGroup G] (laws : S.Laws G) (sound : m.Sound)
    {k : Keyset S} (published : m.keyset k.id = .ok k) {premint : Premint S}
    {promises : List (Promise S)}
    (promised : List.Forall₂ (fun output promise => ∃ amount, m.Promises amount output promise)
      premint.outputs promises)
    (own : ∀ item ∈ premint.items, item.output.keysetId = k.id ∧
      Blind.blind S item.secret.toBytes item.factor = .ok item.output.blinded) (checked : Bool) :
    ∃ proofs, premint.proofs promises k.keys checked = .ok proofs ∧ ∀ p ∈ proofs, m.Signed p := by
  have promised := List.forall₂_map_left_iff.1 promised
  have each (pair : Promise S × PremintItem S) (mem : pair ∈ promises.zip premint.items) :
      ∃ p, Proof.ofPromise k.keys checked pair.1 pair.2.factor pair.2.secret = .ok p ∧
        m.Signed p := by
    obtain ⟨id, hidden⟩ := own pair.2 (List.of_mem_zip mem).2
    obtain ⟨amount, key, nonce, paired, made⟩ := (List.forall₂_iff_zip.1 promised.flip).2 mem
    have known := sound.get?_keys published (id ▸ paired)
    obtain ⟨p, done, sameAmount, sameId, -, verified⟩ :=
      Proof.ofPromise_make laws made hidden known checked
    exact ⟨p, done, key, by rw [sameAmount, sameId]; exact paired, verified⟩
  obtain ⟨proofs, made⟩ := exists_forall₂ each
  refine ⟨proofs, Proof.proofs_eq_ok.2 ⟨promised.length_eq.symm, ?_⟩, fun p mem => ?_⟩
  · exact made.imp fun _ _ h => h.1
  · obtain ⟨_, -, -, signed⟩ := exists_of_mem_forall₂ made mem
    exact signed

end Mint

end Chaumian
