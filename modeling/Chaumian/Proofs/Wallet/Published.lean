import Chaumian.Proofs.Denominations
import Chaumian.Proofs.Mint.Keysets
import Chaumian.Proofs.Wallet.Calls
import Chaumian.Proofs.Wallet.Exchange
import Chaumian.Proofs.Wallet.Session

/-!
# Denominations that are published

A wallet plans with all powers of two up to the largest amount that its mint has published a key for,
as if each of them had one. This is so exactly if the keys are `Gapless`. With a keyset of that kind,
everything that a wallet asks to be signed can be signed by a mint that has its keys, and no proof
fails to be made for want of a key (`planned_published`). With a gap among the keys it is not:
`unpublished_denomination` is a keyset that verifies, for which a part is planned that has no key.
-/

namespace Chaumian

variable {S : Suite}

/-! ## Which denominations are planned -/

theorem Denominations.supports_of_plan {d : Denominations} {amount : Amount}
    {parts : Option (List Amount)} {planned : List Amount}
    (plan : d.plan amount parts = .ok planned) : ∀ part ∈ planned, d.supports part := by
  cases parts with
  | none => exact (Denominations.ascending_of_decompose plan).supported
  | some split =>
    obtain ⟨rfl, -, supported⟩ := Denominations.plan_some_eq_ok.1 plan
    exact supported

namespace Keys

variable {keys : Keys S}

/-- There is a key for every power of two that is not above all amounts with a key. -/
def Gapless (keys : Keys S) : Prop :=
  ∀ entry ∈ keys.entries, ∀ (n : Nat) (a : Amount), a.toNat = 2 ^ n → a.toNat ≤ entry.1.toNat →
    ∃ key, keys.get? a = some key

theorem supports_denominations {a : Amount} : keys.denominations.supports a ↔
    ∃ n, a.toNat = 2 ^ n ∧ ∃ entry ∈ keys.entries, a.toNat ≤ entry.1.toNat := by
  rw [Denominations.supports_iff]
  refine exists_congr fun n => ?_
  rw [and_comm]
  refine and_congr_right fun power => ?_
  rw [denominations, Denominations.lt_order_covering, power]
  simp only [List.mem_map, exists_exists_and_eq_and]

theorem gapless_iff_supports :
    keys.Gapless ↔ ∀ a, keys.denominations.supports a → ∃ key, keys.get? a = some key := by
  constructor
  · intro gapless a supported
    obtain ⟨n, power, entry, mem, below⟩ := supports_denominations.1 supported
    exact gapless entry mem n a power below
  · exact fun known entry mem n a power below =>
      known a (supports_denominations.2 ⟨n, power, entry, mem, below⟩)

/-- Gapless are exactly the keys with which nothing is planned that has no key. -/
theorem gapless_iff_plan : keys.Gapless ↔ ∀ amount parts planned,
    keys.denominations.plan amount parts = .ok planned →
      ∀ part ∈ planned, ∃ key, keys.get? part = some key := by
  rw [gapless_iff_supports]
  constructor
  · exact fun known amount parts planned plan part mem =>
      known part (Denominations.supports_of_plan plan part mem)
  · intro known a supported
    -- A denomination can be asked for as the only part of itself.
    have plan : keys.denominations.plan a (some [a]) = .ok [a] :=
      Denominations.plan_some_eq_ok.2
        ⟨rfl, by simp [Amount.exactSum], List.forall_mem_singleton.2 supported⟩
    exact known a _ _ plan a List.mem_cons_self

/-- It is enough to look for the keys of all powers of two that there are. -/
theorem gapless_iff_lt : keys.Gapless ↔ ∀ n < 64, ∀ entry ∈ keys.entries,
    2 ^ n ≤ entry.1.toNat → (keys.get? (.clamp (2 ^ n))).isSome := by
  have exact {n : Nat} (below : n < 64) : (Amount.clamp (2 ^ n)).toNat = 2 ^ n :=
    Nat.min_eq_left (Nat.le_sub_one_of_lt (Nat.pow_lt_pow_right (by decide) below))
  constructor
  · intro gapless n below entry mem reaches
    have known := gapless entry mem n (.clamp (2 ^ n)) (exact below)
    exact Option.isSome_iff_exists.2 (known ((exact below).trans_le reaches))
  · intro known entry mem n a power reaches
    have below : n < 64 := (Nat.pow_lt_pow_iff_right (by decide)).1 (power ▸ a.lt)
    obtain rfl : a = .clamp (2 ^ n) := Amount.ext (power.trans (exact below).symm)
    exact Option.isSome_iff_exists.1 (known n below entry mem (power ▸ reaches))

instance (keys : Keys S) : Decidable keys.Gapless := decidable_of_iff _ gapless_iff_lt.symm

end Keys

/-! ## What can be signed, and what fails -/

/-- A mint with these keys can sign an output that is to be signed under the keyset, for an amount
that has a key. -/
def Keyset.Signs (k : Keyset S) (o : Output S) : Prop :=
  o.keysetId = k.id ∧ ∃ key, k.keys.get? o.amount = some key

/-- Promises for the amounts of such outputs are for amounts with keys. -/
theorem Keyset.exists_key_of_promised {k : Keyset S} {outputs : List (Output S)}
    (signs : ∀ o ∈ outputs, k.Signs o) {promises : List (Promise S)}
    (promised : promises.map (·.amount) = outputs.map (·.amount)) :
    ∀ p ∈ promises, ∃ key, k.keys.get? p.amount = some key := by
  intro p mem
  have asked : p.amount ∈ outputs.map (·.amount) := promised ▸ List.mem_map_of_mem mem
  obtain ⟨o, mem, same⟩ := List.mem_map.1 asked
  obtain ⟨-, key, known⟩ := signs o mem
  exact ⟨key, same ▸ known⟩

/-- A mint that has published a keyset has the secret keys that belong to it. -/
theorem Mint.Sound.exists_keyPair {m : Mint S} (sound : m.Sound) {k : Keyset S}
    (published : m.keyset k.id = .ok k) {o : Output S} (signs : k.Signs o) :
    ∃ pair, m.keyPair o.keysetId o.amount = .ok pair ∧
      k.keys.get? o.amount = some (S.base pair.secretKey) := by
  obtain ⟨id, key, known⟩ := signs
  obtain ⟨keyset, mem, found, -, same⟩ := keyset_eq_ok published
  have keys : k.keys = SecretKeyset.publicKeys keyset.entries := congrArg Keyset.keys same
  rw [keys, SecretKeyset.get?_publicKeys (sound.amounts keyset mem)] at known
  obtain ⟨pair, known, -⟩ := Option.map_eq_some_iff.1 known
  have paired : m.keyPair o.keysetId o.amount = .ok pair := by
    rw [id, keyPair, found]
    dsimp only
    rw [known]
  exact ⟨pair, paired, sound.get?_keys published (id ▸ paired)⟩

namespace Blind

theorem pointOf_eq_error {message : Bytes} {e : Error} (h : pointOf S message = .error e) :
    e = .noPoint := by
  unfold pointOf at h
  cases found : S.hashToPoint? message with
  | none =>
    rw [found] at h
    cases h
    rfl
  | some y =>
    rw [found] at h
    cases h

/-- No key is needed to hide a message. -/
theorem blind_ne_unknownAmount {message : Bytes} {r : S.Scalar} {e : Error}
    (h : blind S message r = .error e) (a : Amount) : e ≠ .unknownAmount a := by
  rintro rfl
  obtain unmapped | ⟨y, -, h⟩ := bind_eq_error.1 h
  · cases pointOf_eq_error unmapped
  · obtain ⟨_, -, impossible⟩ := mapError_eq_error.1 h
    cases impossible

theorem unblind_ne_unknownAmount {signature key : S.Point} {r : S.Scalar} {e : Error}
    (h : unblind S signature r key = .error e) (a : Amount) : e ≠ .unknownAmount a := by
  rintro rfl
  obtain h | ⟨mask, -, h⟩ := bind_eq_error.1 h
  · obtain ⟨_, -, impossible⟩ := mapError_eq_error.1 h
    cases impossible
  · obtain ⟨_, -, impossible⟩ := mapError_eq_error.1 h
    cases impossible

end Blind

namespace Proof

theorem ofPromise_eq_unknownAmount {keys : Keys S} {checked : Bool} {promise : Promise S}
    {r : S.Scalar} {secret : Secret} {a : Amount}
    (h : ofPromise keys checked promise r secret = .error (.unknownAmount a)) :
    keys.get? promise.amount = none := by
  rcases known : keys.get? promise.amount with _ | key
  · rfl
  · rw [ofPromise, known] at h
    obtain h | ⟨_, -, h⟩ := bind_eq_error.1 h
    · cases h
    · obtain h | ⟨signature, -, h⟩ := bind_eq_error.1 h
      · exact absurd rfl (Blind.unblind_ne_unknownAmount h a)
      · obtain ⟨-, impossible⟩ | ⟨-, impossible⟩ := guard_eq_error.1 h
        · cases impossible
        · cases impossible

/-- Proofs are not made for want of a key only if there is a promise for an amount without one. -/
theorem exists_of_ofPromises_eq_unknownAmount {promises : List (Promise S)} {rs : List S.Scalar}
    {secrets : List Secret} {keys : Keys S} {checked : Bool} {a : Amount}
    (h : ofPromises promises rs secrets keys checked = .error (.unknownAmount a)) :
    ∃ p ∈ promises, keys.get? p.amount = none := by
  unfold ofPromises at h
  split at h
  · cases h
  · obtain ⟨⟨promise, r, secret⟩, mem, failed⟩ := exists_of_mapM_eq_error h
    exact ⟨promise, (List.of_mem_zip mem).1, ofPromise_eq_unknownAmount failed⟩

theorem y_ne_unknownAmount {p : Proof S} {e : Blind.Error} (h : p.y = .error e) (a : Amount) :
    e ≠ .unknownAmount a := by
  rw [Blind.pointOf_eq_error h]
  exact nofun

end Proof

namespace Wallet

variable {τ : Type}

/-- What a call asks to be signed for amounts of the wallet's choice can be signed with the keys of a
keyset. Of change the mint chooses the amounts. -/
def MintCall.Signable (k : Keyset S) : MintCall S → Prop
  | .mint request => ∀ o ∈ request.outputs, k.Signs o
  | .split request => ∀ o ∈ request.outputs, k.Signs o
  | _ => True

theorem MintCall.Tells.signable (k : Keyset S) {call : MintCall S} (tells : call.Tells) :
    call.Signable k := by
  cases call with
  | quote | mint | split | melt => exact tells.elim
  | _ => trivial

/-- A wallet works with a keyset: it takes it for current or, while it takes none, is told so when it
asks, and has no other one of that identifier in its store. -/
inductive Scene.Uses (world : World S τ) (x : Scene S τ) (k : Keyset S) : Prop
  | known (known : x.known = some k)
  | told {mint : τ} (unknown : x.known = none)
    (answered : world.answer .keys x.mint = (.ok k, mint))
    (only : ∀ old, x.wallet.store.keyset? k.id = some old → old = k)

namespace Scene.Uses

variable {world : World S τ} {x : Scene S τ} {k : Keyset S}

/-- What an operation claims makes no difference to the keyset it works with. -/
theorem claim (uses : x.Uses world k) (ys : List S.Point) :
    (x.withMemory (x.wallet.memory.claim ys).2).Uses world k := by
  have same : (x.withMemory (x.wallet.memory.claim ys).2).known = x.known :=
    known_of_keysets (Memory.current_claim _ _) rfl
  cases uses with
  | known known => exact .known (same.trans known)
  | told unknown answered only => exact .told (same.trans unknown) answered only

theorem logging (uses : x.Uses world k) (log : List (MintCall S)) :
    (x.logging log).Uses world.logged k := by
  cases uses with
  | known known => exact .known known
  | told unknown answered only => exact .told unknown (World.answer_logged answered log) only

end Scene.Uses

namespace World

/-- A failure is not for want of a key, unless that is what the mint itself has answered. -/
def Keyed (world : World S τ) (e : Error S) : Prop :=
  ∀ a, e = .blind (.unknownAmount a) → ∃ call mint, (world.answer call mint).1 = .error e

section

variable {world : World S τ} {x : Scene S τ} {k : Keyset S} {e : Error S}

theorem Keyed.of_blind {cause : Blind.Error} (other : ∀ a, cause ≠ .unknownAmount a) :
    world.Keyed (.blind cause) := by
  intro a same
  cases same
  exact absurd rfl (other a)

theorem Keyed.of_answer {call : MintCall S} {mint mint' : τ}
    (answered : world.answer call mint = (.error e, mint')) : world.Keyed e :=
  fun _ _ => ⟨call, mint, congrArg Prod.fst answered⟩

theorem Keyed.of_amount {β : Type} {r : Except Amount.Error β}
    (failed : r.mapError Error.ofAmount = .error e) : world.Keyed e := by
  obtain ⟨cause, -, rfl⟩ := mapError_eq_error.1 failed
  cases cause <;> exact nofun

theorem Keyed.of_lift {β : Type} {r : Except Blind.Error β}
    (other : ∀ cause, r = .error cause → ∀ a, cause ≠ .unknownAmount a)
    (failed : r.mapError Error.blind = .error e) : world.Keyed e := by
  obtain ⟨cause, wrong, rfl⟩ := mapError_eq_error.1 failed
  exact .of_blind (other cause wrong)

theorem Keyed.of_ys {proofs : List (Proof S)}
    (failed : (Proof.ys proofs).mapError Error.blind = .error e) : world.Keyed e := by
  refine .of_lift (fun cause wrong => ?_) failed
  obtain ⟨p, -, wrong⟩ := exists_of_mapM_eq_error wrong
  exact Proof.y_ne_unknownAmount wrong

theorem Keyed.of_rows {proofs : List (Proof S)} {status : ProofStatus} {mintId : Option String}
    (failed : (ProofRow.ofProofs proofs status mintId).mapError Error.blind = .error e) :
    world.Keyed e := by
  refine .of_lift (fun cause wrong => ?_) failed
  obtain ⟨p, -, wrong⟩ := exists_of_mapM_eq_error wrong
  obtain wrong | ⟨_, -, impossible⟩ := bind_eq_error.1 wrong
  · exact Proof.y_ne_unknownAmount wrong
  · cases impossible

/-- The proofs of promises for amounts that have keys. -/
theorem Keyed.of_proofs {premint : Premint S} {promises : List (Promise S)} {checked : Bool}
    (published : ∀ p ∈ promises, ∃ key, k.keys.get? p.amount = some key)
    (failed : (premint.proofs promises k.keys checked).mapError Error.blind = .error e) :
    world.Keyed e := by
  refine .of_lift (fun cause wrong a same => ?_) failed
  subst same
  obtain ⟨p, mem, missing⟩ := Proof.exists_of_ofPromises_eq_unknownAmount wrong
  obtain ⟨key, known⟩ := published p mem
  cases missing.symm.trans known

theorem Keyed.of_checkPromises {promises : List (Promise S)} {expected : List Amount}
    (failed : checkPromises promises expected = .error e) : world.Keyed e := by
  unfold checkPromises at failed
  split at failed
  · cases failed
    exact nofun
  · split at failed
    · cases failed
      exact nofun
    · cases failed

/-- The store knows nothing of keys for amounts. -/
theorem Keyed.of_store (cause : Store.Error S) : world.Keyed (.store cause) := nofun

theorem ends_askStore_keyed (call : StoreCall S) (x : Scene S τ) :
    world.Ends (Operation.askStore call) x (fun _ _ => True) fun e _ => world.Keyed e :=
  .askStore (fun _ _ _ => trivial) fun e _ _ => .of_store e

/-! ### The keyset that is used -/

theorem ends_currentKeyset_uses (uses : x.Uses world k) :
    world.Ends Wallet.currentKeyset x (fun keyset y => keyset = k ∧ y.known = some k)
      fun e _ => world.Keyed e := by
  refine .seq ((ends_cachedCurrent x).mono ?_ fun _ _ h => h.elim)
  rintro cached x ⟨rfl, same⟩
  cases uses with
  | known known =>
    cases same.trans known
    exact .pure ⟨rfl, known⟩
  | @told mint unknown answered only =>
    cases same.trans unknown
    refine .seq (.askMint (fun keyset mint' told => ?_) fun e mint' told => .of_answer told)
    cases answered.symm.trans told
    refine .guard (fun _ => nofun) fun _ => ?_
    refine .seq (((ends_learn k _).and (ends_askStore_keyed _ _)).mono ?_ fun _ _ h => h.2)
    rintro _ _ ⟨⟨-, rfl⟩, -⟩
    refine .seq (.askMemory (.pure ⟨rfl, ?_⟩))
    show (x.wallet.store.learn k).keyset? k.id = some k
    rw [Store.keyset?_learn, if_pos rfl]
    rcases stored : x.wallet.store.keyset? k.id with _ | old
    · rfl
    · exact congrArg some (only old stored)

/-! ### New outputs -/

theorem ends_drawItems_keyed (id : KeysetId) (amounts : List Amount) (x : Scene S τ) :
    world.Ends (amounts.mapM fun amount => do
        let (secret, factor) ← (Operation.draw : Steps S _)
        (ExceptT.mk (pure (PremintItem.make id amount secret factor)) :
          ExceptT Blind.Error (Steps S) (PremintItem S))) x (fun _ _ => True)
      fun cause _ => ∀ a, cause ≠ .unknownAmount a := by
  induction amounts generalizing x with
  | nil => exact .pure trivial
  | cons amount rest ih =>
    rw [List.mapM_cons]
    refine .seq (.seq (.draw (.done (fun item _ => ?_) fun cause failed => ?_)))
    · exact .bind (ih _) fun _ _ _ => .pure trivial
    · obtain failed | ⟨_, -, impossible⟩ := bind_eq_error.1 failed
      · exact Blind.blind_ne_unknownAmount failed
      · cases impossible

theorem ends_premint_keyed (id : KeysetId) (amounts : List Amount) (x : Scene S τ) :
    world.Ends (Operation.premint id amounts) x (fun _ _ => True) fun e _ => world.Keyed e := by
  have generated : world.Ends (Premint.generate Operation.draw id amounts) x (fun _ _ => True)
      fun cause _ => ∀ a, cause ≠ .unknownAmount a :=
    .bind (ends_drawItems_keyed id amounts x) fun _ _ _ => .pure trivial
  exact .seq (.attempt (generated.mono (fun _ _ _ => .pure trivial)
    fun _ _ other => .throw (.of_blind other)))

/-- Outputs for amounts with keys can be signed. -/
theorem Draws.signs {amounts : List Amount} {n : Nat} {items : List (PremintItem S)}
    (drawn : world.Draws k.id amounts n items)
    (published : ∀ a ∈ amounts, ∃ key, k.keys.get? a = some key) :
    ∀ o ∈ items.map (·.output), k.Signs o := by
  intro o mem
  obtain ⟨item, here, rfl⟩ := List.mem_map.1 mem
  refine ⟨(drawn.own here).1, published _ ?_⟩
  rw [← drawn.map_amount]
  exact List.mem_map_of_mem (f := PremintItem.amount) here

theorem ends_premintFor_signs (gapless : k.keys.Gapless) (amount : Amount) (x : Scene S τ) :
    world.Ends (Operation.premintFor k.id k.keys.denominations amount) x
      (fun p y => p.keysetId = k.id ∧ y.wallet = x.wallet ∧ ∀ o ∈ p.outputs, k.Signs o)
      fun e _ => world.Keyed e := by
  refine .seq (.lift (fun amounts decomposed => ?_) fun e failed => .of_amount failed)
  refine ((ends_premint k.id amounts x).and (ends_premint_keyed k.id amounts x)).mono ?_
    fun _ _ h => h.2
  rintro p _ ⟨⟨id, drawn, rfl⟩, -⟩
  have made := Denominations.ascending_of_decompose (mapError_eq_ok.1 decomposed)
  have known := Keys.gapless_iff_supports.1 gapless
  exact ⟨id, rfl, drawn.signs fun a mem => known a (made.supported a mem)⟩

/-- What is prepared for an exchange can be signed. -/
theorem ends_prepareSplit_signs (gapless : k.keys.Gapless) (uses : x.Uses world k)
    (settings : Settings) (proofs : List (Proof S)) (amount : Amount) :
    world.Ends (prepareSplit settings proofs amount) x
      (fun p y => p.keep.keysetId = k.id ∧ y.known = some k ∧ ∀ o ∈ p.request.outputs, k.Signs o)
      fun e _ => world.Keyed e := by
  refine .bind (ends_currentKeyset_uses uses) ?_
  rintro _ y ⟨rfl, known⟩
  refine .seq ((ends_denominations_known settings y).mono ?_ fun _ _ h => h.elim)
  rintro d y ⟨rfl, same⟩
  obtain rfl := same _ known
  refine .seq (.lift (fun total _ => ?_) fun e failed => .of_amount failed)
  rcases total.sub? amount with _ | rest
  · exact .throw nofun
  · refine .bind (ends_premintFor_signs gapless rest y) ?_
    rintro keep y₁ ⟨id, first, keepSigned⟩
    refine .bind (ends_premintFor_signs gapless amount y₁) ?_
    rintro send y₂ ⟨-, second, sendSigned⟩
    have wallet := second.trans first
    refine .pure ⟨id, ?_, List.forall_mem_append.2 ⟨keepSigned, sendSigned⟩⟩
    rw [Scene.known, wallet]
    exact known

end

/-! ### Whole operations -/

variable {world : World S τ} {x : Scene S (τ × List (MintCall S))} {k : Keyset S}

/-- Asking a mint that keeps a list for something that can be signed. -/
theorem ends_askMint_signable (call : MintCall S) (signable : call.Signable k)
    (y : Scene S (τ × List (MintCall S))) (sent : x.Sends (MintCall.Signable k) y) :
    world.logged.Ends (Operation.askMint call) y
      (fun _ z => x.Sends (MintCall.Signable k) z ∧ z.wallet = y.wallet)
      fun e z => x.Sends (MintCall.Signable k) z ∧ world.logged.Keyed e := by
  have answered : world.logged.Ends (Operation.askMint call) y (fun _ z => z.wallet = y.wallet)
      fun e _ => world.logged.Keyed e :=
    .askMint (fun _ _ _ => rfl) fun _ _ told => .of_answer told
  refine ((sends_askMint signable y).and answered).mono ?_ ?_
  · exact fun _ _ h => ⟨IsTrans.trans _ _ _ sent h.1, h.2⟩
  · exact fun _ _ h => ⟨IsTrans.trans _ _ _ sent h.1, h.2⟩

/-- Whether minting succeeds or not, all that was to be signed can be signed. -/
theorem ends_mintProofs_signable (gapless : k.keys.Gapless) (uses : x.Uses world.logged k)
    (settings : Settings) (amount : Amount) (parts : Option (List Amount)) (invoiceId : String) :
    world.logged.Ends (mintProofs settings amount parts invoiceId) x
      (fun _ y => x.Sends (MintCall.Signable k) y)
      fun e y => x.Sends (MintCall.Signable k) y ∧ world.logged.Keyed e := by
  unfold mintProofs
  refine .guard (fun _ => ⟨refl x, nofun⟩) fun _ => ?_
  refine .seq (.askStore (fun found store called => ?_) fun _ _ called => nomatch called)
  cases called
  rcases x.wallet.store.invoice? invoiceId with _ | invoice
  · exact .throw ⟨refl x, nofun⟩
  have looked : world.logged.Within (Scene.Sends (MintCall.Signable k)) currentKeyset :=
    (registers_sends fun _ tells => tells.signable k).currentKeyset
  refine .bind ((looked x).and (ends_currentKeyset_uses uses)) ?_
  rintro k y ⟨sent, rfl, known⟩
  refine .seq ((ends_denominations_known settings y).mono ?_ fun _ _ h => h.elim)
  rintro d y ⟨rfl, same⟩
  obtain rfl := same _ known
  refine .seq (.lift (fun amounts plan => ?_) fun e failed => ⟨sent, .of_amount failed⟩)
  have published := Keys.gapless_iff_plan.1 gapless _ _ _ (mapError_eq_ok.1 plan)
  refine .claiming ⟨sent, nofun⟩ ?_
  refine .seq (((ends_premint k.id amounts _).and (ends_premint_keyed k.id amounts _)).mono ?_
    fun _ z h => ?_)
  · rintro outputs _ ⟨⟨-, drawn, rfl⟩, -⟩
    have signs : ∀ o ∈ outputs.outputs, k.Signs o := drawn.signs published
    refine .bind (ends_askMint_signable (.mint ⟨invoiceId, outputs.outputs⟩) signs _ sent) ?_
    rintro response z ⟨sent, -⟩
    refine .seq (.lift (fun _ checked => ?_) fun e failed => ⟨sent, .of_checkPromises failed⟩)
    have promised : response.promises.map (·.amount) = outputs.outputs.map (·.amount) := by
      rw [checkPromises_eq_ok.1 checked, Premint.outputs, List.map_map]
      rfl
    have keys := Keyset.exists_key_of_promised signs promised
    refine .seq (.lift (fun proofs _ => ?_) fun e failed => ⟨sent, .of_proofs keys failed⟩)
    refine .seq (.lift (fun rows _ => ?_) fun e failed => ⟨sent, .of_rows failed⟩)
    exact .seq (ends_update (fun _ _ => .seq (.tryStore (.pure sent))) fun e _ =>
      ⟨sent, .of_store e⟩)
  · obtain ⟨⟨n, rfl⟩, keyed⟩ := h
    exact ⟨sent, keyed⟩

/-- Preparing an exchange sends nothing but questions about keysets. -/
theorem sends_prepareSplit (settings : Settings) (proofs : List (Proof S)) (amount : Amount) :
    world.logged.Within (Scene.Sends (MintCall.Signable k))
      (prepareSplit settings proofs amount) := by
  have drawn (id : KeysetId) (d : Denominations) (a : Amount) :
      world.logged.Within (Scene.Sends (MintCall.Signable k)) (Operation.premintFor id d a) := by
    refine fun y => (ends_premintFor id d a y).mono ?_ ?_
    · rintro p _ ⟨-, -, -, rfl⟩
      exact .nothing rfl
    · rintro e _ ⟨n, rfl⟩
      exact .nothing rfl
  refine .bind (registers_sends fun _ tells => tells.signable k).currentKeyset fun keyset => ?_
  refine .bind (.denominations settings) fun d => .bind (.lift _) fun total => ?_
  rcases total.sub? amount with _ | rest
  · exact .throw _
  · exact .bind (drawn _ _ _) fun keep => .bind (drawn _ _ _) fun send => .pure _

/-- Whether an exchange succeeds or not, all that was to be signed can be signed. -/
theorem ends_splitInto_signable (gapless : k.keys.Gapless) (uses : x.Uses world.logged k)
    (settings : Settings) (status : ProofStatus) (proofs : List (Proof S)) (amount : Amount) :
    world.logged.Ends (splitInto settings status proofs amount) x
      (fun _ y => x.Sends (MintCall.Signable k) y)
      fun e y => x.Sends (MintCall.Signable k) y ∧ world.logged.Keyed e := by
  unfold splitInto
  refine .guard (fun _ => ⟨refl x, nofun⟩) fun _ => ?_
  refine .guard (fun _ => ⟨refl x, nofun⟩) fun _ => ?_
  refine .seq (.lift (fun total _ => ?_) fun e failed => ⟨refl x, .of_amount failed⟩)
  refine .guard (fun _ => ⟨refl x, nofun⟩) fun _ => ?_
  refine .seq (.lift (fun ys _ => ?_) fun e failed => ⟨refl x, .of_ys failed⟩)
  refine .claiming ⟨refl x, nofun⟩ ?_
  refine .bind ((sends_prepareSplit settings proofs amount _).and
    (ends_prepareSplit_signs gapless (uses.claim ys) settings proofs amount)) ?_
  rintro prepared y ⟨sent, id, known, signs⟩
  have sent : x.Sends (MintCall.Signable k) y := sent
  refine .bind (ends_askMint_signable (.split prepared.request) signs _ sent) ?_
  rintro response z ⟨sent, same⟩
  refine .seq (.lift (fun _ checked => ?_) fun e failed => ⟨sent, .of_checkPromises failed⟩)
  have keys := Keyset.exists_key_of_promised signs
    ((checkPromises_eq_ok.1 checked).trans (amounts_request prepared).symm)
  have stored : z.wallet.store.keyset? prepared.keep.keysetId = some k := by
    rw [same, id]
    exact (Scene.stored_of_known known).2
  refine .seq ((ends_fetchKeysOf_stored stored).mono ?_ fun _ _ h => h.elim)
  rintro _ _ ⟨rfl, rfl⟩
  refine .seq (.lift (fun keep _ => ?_) fun e failed =>
    ⟨sent, .of_proofs (fun p mem => keys p (List.mem_of_mem_take mem)) failed⟩)
  refine .seq (.lift (fun send _ => ?_) fun e failed =>
    ⟨sent, .of_proofs (fun p mem => keys p (List.mem_of_mem_drop mem)) failed⟩)
  refine .seq (.lift (fun kept _ => ?_) fun e failed => ⟨sent, .of_rows failed⟩)
  refine .seq (.lift (fun others _ => ?_) fun e failed => ⟨sent, .of_rows failed⟩)
  exact .seq (ends_update (fun _ _ => .pure sent) fun e _ => ⟨sent, .of_store e⟩)

end World

theorem Scene.Sends.each {kind : MintCall S → Prop} {x y : Scene S τ} {calls : List (MintCall S)}
    (sent : (x.logging []).Sends kind (y.logging calls)) : ∀ call ∈ calls, kind call := by
  obtain ⟨others, same, each⟩ := sent
  have same : calls = others := same
  exact same ▸ each

/-- What has been followed before a mint that keeps a list holds before the mint itself. -/
theorem World.Ends.signable {α : Type} {world : World S τ} {x : Scene S τ} {k : Keyset S}
    {op : Operation S α}
    (ended : world.logged.Ends op (x.logging [])
      (fun _ y => (x.logging []).Sends (MintCall.Signable k) y)
      fun e y => (x.logging []).Sends (MintCall.Signable k) y ∧ world.logged.Keyed e) :
    (∀ call ∈ world.sent op x, call.Signable k) ∧
      ∀ e y, world.perform op x = (.error e, y) → world.Keyed e := by
  have ended := ended.sent
  constructor
  · rcases ran : world.perform op x with ⟨e | a, y⟩
    · exact (ended.error ran).1.each
    · exact (ended.ok ran).each
  · intro e y ran a same
    obtain ⟨call, mint, answered⟩ := (ended.error ran).2 a same
    exact ⟨call, mint.1, answered⟩

/-- **Planned denominations are published** exactly if the keys have no gaps. Then a wallet that works
with the keyset asks only for signatures for amounts that have keys, under that keyset, whether it
mints, prepares an exchange or exchanges proofs; it does not fail for want of a key; and a mint that
has published the keyset has the secret keys to sign what it is asked for. -/
theorem planned_published {G : Type} [AddCommGroup G] (laws : S.Laws G) (k : Keyset S) :
    (k.keys.Gapless ↔ ∀ amount parts planned,
      k.keys.denominations.plan amount parts = .ok planned →
        ∀ part ∈ planned, ∃ key, k.keys.get? part = some key) ∧
    (k.keys.Gapless →
      ∀ {τ : Type} (world : World S τ) (x : Scene S τ), x.Uses world k → ∀ settings amount,
        (∀ parts invoiceId,
          (∀ request, .mint request ∈ world.sent (mintProofs settings amount parts invoiceId) x →
            ∀ o ∈ request.outputs, k.Signs o) ∧
          ∀ e y, world.perform (mintProofs settings amount parts invoiceId) x = (.error e, y) →
            world.Keyed e) ∧
        ∀ proofs,
          (∀ prepared y, world.perform (prepareSplit settings proofs amount) x = (.ok prepared, y) →
            ∀ o ∈ prepared.request.outputs, k.Signs o) ∧
          ∀ status,
            (∀ request, .split request ∈ world.sent (splitInto settings status proofs amount) x →
              ∀ o ∈ request.outputs, k.Signs o) ∧
            ∀ e y, world.perform (splitInto settings status proofs amount) x = (.error e, y) →
              world.Keyed e) ∧
    ∀ m : Mint S, m.Sound → m.keyset k.id = .ok k → ∀ o : Output S, k.Signs o →
      ∃ pair signature, m.keyPair o.keysetId o.amount = .ok pair ∧
        k.keys.get? o.amount = some (S.base pair.secretKey) ∧
        Blind.sign S pair.secretKey o.blinded = .ok signature := by
  refine ⟨Keys.gapless_iff_plan, ?_, ?_⟩
  · intro gapless τ world x uses settings amount
    have logging := uses.logging []
    refine ⟨fun parts invoiceId => ?_, fun proofs => ⟨fun prepared y ran => ?_, fun status => ?_⟩⟩
    · obtain ⟨sent, keyed⟩ :=
        (World.ends_mintProofs_signable gapless logging settings amount parts invoiceId).signable
      exact ⟨fun request asked => sent _ asked, keyed⟩
    · have ends := World.ends_prepareSplit_signs gapless uses settings proofs amount
      exact (ends.ok ran).2.2
    · obtain ⟨sent, keyed⟩ :=
        (World.ends_splitInto_signable gapless logging settings status proofs amount).signable
      exact ⟨fun request asked => sent _ asked, keyed⟩
  · intro m sound published o signs
    obtain ⟨pair, paired, known⟩ := sound.exists_keyPair published signs
    obtain ⟨signature, made⟩ := laws.exists_mul pair.secretKey o.blinded
    exact ⟨pair, signature, paired, known, mapError_eq_ok.2 made⟩

end Wallet

end Chaumian

namespace Chaumian.Sample

open Wallet

set_option maxRecDepth 4000

/-- The sample keyset has no gaps, and a wallet that has an invoice of 3 is told to use it. What it
asks the mint to sign the mint has the keys for. -/
theorem planned_published_invoiced :
    keyset.keys.Gapless ∧ invoiced.2.Uses (supply.world clock) keyset ∧
    ((supply.world clock).sent (mintProofs .default (.clamp 3) none "quote 0") invoiced.2).length =
      2 ∧
    ∀ request, .mint request ∈
        (supply.world clock).sent (mintProofs .default (.clamp 3) none "quote 0") invoiced.2 →
      ∀ o ∈ request.outputs, ∃ pair signature, mint.keyPair o.keysetId o.amount = .ok pair ∧
        keyset.keys.get? o.amount = some (suite.base pair.secretKey) ∧
        Blind.sign suite pair.secretKey o.blinded = .ok signature := by
  have : Fact (Nat.Prime 251) := ⟨by decide +kernel⟩
  have sound : mint.Sound := ⟨List.nodup_singleton _, by decide +kernel⟩
  have gapless : keyset.keys.Gapless := by decide +kernel
  have uses : invoiced.2.Uses (supply.world clock) keyset := by
    refine .told (by decide +kernel) rfl fun old stored => ?_
    cases stored
  have sent : ((supply.world clock).sent (mintProofs .default (.clamp 3) none "quote 0")
      invoiced.2).length = 2 := by decide +kernel
  obtain ⟨-, signable, paired⟩ := planned_published (Suite.lawsOfScalars (by decide)) keyset
  refine ⟨gapless, uses, sent, fun request asked o mem => ?_⟩
  have minted := (signable gapless (supply.world clock) invoiced.2 uses .default (.clamp 3)).1
  exact paired mint sound rfl o ((minted none "quote 0").1 request asked o mem)

/-- Keys for 1 and 4, and none for 2. -/
def gappedKeyset : SecretKeyset suite :=
  ⟨⟨[17, 24, 177, 65, 6, 187, 129, 178, 74], rfl⟩,
    [1, 4].map fun n => (Amount.clamp n, KeyPair.ofSecret (scalar (10 * n)))⟩

/-- A wallet that takes them for current and is to have 2 minted for an invoice. -/
def gapped : Scene suite Unit where
  wallet := {
    settings := .default
    store := ⟨[gappedKeyset.toPublic], [gappedKeyset.id],
      [⟨"quote", "hash", "invoice", .clamp 2, .incoming, false, none⟩], []⟩
    memory := ⟨some gappedKeyset.id, 0, []⟩ }
  mint := ()
  drawn := 0
  named := 0

/-- A mint that gives each blinded message back as its own signature, for the amount that is asked
for. -/
def lavish : World suite Unit where
  answer
    | .mint request, _ =>
      (.ok ⟨request.outputs.map fun o => ⟨o.amount, o.keysetId, o.blinded, none⟩⟩, ())
    | _, _ => (.error .keysetNotFound, ())
  draw n := (secret n, scalar n)
  meltId n := s!"payment {n}"

/-- Keys that verify, and for 2 a part of 2 is planned, for which there is no key: a mint with these
keys refuses to sign it, and what another one has signed comes to nothing. -/
theorem unpublished_denomination :
    gappedKeyset.toPublic.verifies = true ∧
    gappedKeyset.toPublic.keys.denominations.plan (.clamp 2) none = .ok [.clamp 2] ∧
    gappedKeyset.toPublic.keys.get? (.clamp 2) = none ∧
    (Mint.keyPair ⟨Mint.ownInfo, [gappedKeyset], [], [], []⟩ gappedKeyset.id (.clamp 2)).toOption =
      none ∧
    (lavish.perform (mintProofs .default (.clamp 2) none "quote") gapped).1 =
      .error (.blind (.unknownAmount (.clamp 2))) := by
  exact ⟨by decide +kernel, by decide +kernel, by decide +kernel, rfl, by decide +kernel⟩

end Chaumian.Sample
