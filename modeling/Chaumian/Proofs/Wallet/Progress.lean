import Chaumian.Proofs.Mint.Granting
import Chaumian.Proofs.Wallet.Granted

/-!
# What a wallet before its own mint can rely on

A wallet `AtRest` before a complete mint always finds out what it has to know, and can make outputs
as long as nothing degenerate comes of what is drawn (`Supply.Regular`). So an exchange of proofs
that the mint has signed ends in one of two ways: it succeeds if none of them has been taken, and
else it is refused as a double spend and the books are as before. So does receiving.
-/

namespace Chaumian.Wallet

variable {S : Suite} {τ ε α β : Type}

namespace World

section

variable {world : World S τ} {x : Scene S τ}

/-- Begun in the scene `x`, the operation succeeds such that `Q` holds. -/
abbrev Yields (world : World S τ) (op : ExceptT ε (Steps S) α) (x : Scene S τ)
    (Q : α → Scene S τ → Prop) : Prop :=
  world.Ends op x Q fun _ _ => False

/-- What an operation ends in if it succeeds, it ends in if it is known to succeed. -/
theorem Ends.sure {op : ExceptT ε (Steps S) α} {Q Q' : α → Scene S τ → Prop}
    {E : ε → Scene S τ → Prop} (h : world.Ends op x Q E) (done : world.Yields op x Q') :
    world.Yields op x fun a y => Q a y ∧ Q' a y :=
  (h.and done).mono (fun _ _ both => both) fun _ _ failed => failed.2

theorem Yields.exists_perform {op : ExceptT ε (Steps S) α} {Q : α → Scene S τ → Prop}
    (h : world.Yields op x Q) : ∃ a y, world.perform op x = (.ok a, y) ∧ Q a y := by
  rcases ran : world.perform op x with ⟨e | a, y⟩
  · exact (h.error ran).elim
  · exact ⟨a, y, rfl, h.ok ran⟩

/-! ## Reading what is remembered -/

theorem yields_denominations (settings : Settings) (x : Scene S τ) :
    world.Yields (Wallet.denominations settings) x fun d y =>
      y = x ∧ ∀ k, x.known = some k → d = k.keys.denominations :=
  ends_denominations_known settings x

/-! ## New outputs -/

theorem yields_drawItems (id : KeysetId) (amounts : List Amount) (x : Scene S τ)
    (hidden : ∀ i, x.drawn ≤ i → i < x.drawn + amounts.length → ∃ blinded,
      Blind.blind S (world.draw i).1.toBytes (world.draw i).2 = .ok blinded) :
    world.Yields (amounts.mapM fun amount => do
        let (secret, factor) ← (Operation.draw : Steps S _)
        (ExceptT.mk (pure (PremintItem.make id amount secret factor)) :
          ExceptT Blind.Error (Steps S) (PremintItem S))) x fun _ _ => True := by
  induction amounts generalizing x with
  | nil => exact .pure trivial
  | cons amount rest ih =>
    rw [List.length_cons] at hidden
    rw [List.mapM_cons]
    refine .seq (.seq (.draw (.done (fun item made => ?_) fun e failed => ?_)))
    · refine .bind (ih _ fun i low high => hidden i ?_ ?_) fun _ _ _ => .pure trivial
      · exact (Nat.le_succ _).trans low
      · rw [← Nat.succ_add_eq_add_succ]
        exact high
    · -- The secret of the first draw can be hidden.
      obtain ⟨blinded, done⟩ := hidden x.drawn (Nat.le_refl _) (by omega)
      have made : PremintItem.make id amount (world.draw x.drawn).1 (world.draw x.drawn).2 =
          .ok ⟨⟨amount, id, blinded⟩, (world.draw x.drawn).1, (world.draw x.drawn).2⟩ :=
        bind_eq_ok.2 ⟨blinded, done, rfl⟩
      cases made.symm.trans failed

theorem yields_premint (id : KeysetId) (amounts : List Amount) (x : Scene S τ)
    (hidden : ∀ i, x.drawn ≤ i → i < x.drawn + amounts.length → ∃ blinded,
      Blind.blind S (world.draw i).1.toBytes (world.draw i).2 = .ok blinded) :
    world.Yields (Operation.premint id amounts) x fun _ _ => True := by
  have generated : world.Yields (Premint.generate Operation.draw id amounts) x fun _ _ => True :=
    .bind (yields_drawItems id amounts x hidden) fun _ _ _ => .pure trivial
  exact .seq (.attempt (generated.mono (fun _ _ _ => .pure trivial) fun _ _ failed => failed.elim))

/-- Every output is made of one of the draws. -/
theorem Draws.exists_draw {id : KeysetId} {amounts : List Amount} {n : Nat}
    {items : List (PremintItem S)} (h : world.Draws id amounts n items) {item : PremintItem S}
    (mem : item ∈ items) : item.output.amount ∈ amounts ∧ ∃ i, n ≤ i ∧ i < n + amounts.length ∧
      Blind.blind S (world.draw i).1.toBytes (world.draw i).2 = .ok item.output.blinded := by
  obtain ⟨⟨amount, i⟩, drawn, made⟩ := exists_of_mem_forall₂ h mem
  obtain ⟨hidden, same⟩ := PremintItem.make_eq_ok made
  have place := List.mem_zipIdx drawn
  rw [same]
  refine ⟨List.fst_mem_of_mem_zipIdx drawn, i, place.1, ?_, ?_⟩
  · have bound := place.2.1
    omega
  · rw [same] at hidden
    exact hidden

end

/-! ## Before a complete mint -/

end World

/-- Nothing degenerate comes of the draws from the `i`-th on and before the `j`-th: the secrets can
be hidden, and whichever call the mint signs them in, it can prove what it has signed. -/
structure Supply.Regular (supply : Supply S) (m : Mint S) (i j : Nat) : Prop where
  hidden : ∀ n, i ≤ n → n < j → ∃ blinded,
    Blind.blind S (supply.draw n).1.toBytes (supply.draw n).2 = .ok blinded
  proves : ∀ n, i ≤ n → n < j → ∀ blinded,
    Blind.blind S (supply.draw n).1.toBytes (supply.draw n).2 = .ok blinded →
      ∀ call k, m.Proves ((supply.source call).nonces k) blinded

theorem Supply.Regular.mono {supply : Supply S} {m m' : Mint S} {i j i' j' : Nat}
    (regular : supply.Regular m i j) (same : m'.keysets = m.keysets) (low : i ≤ i')
    (high : j' ≤ j) : supply.Regular m' i' j' := by
  refine ⟨fun n low' high' => regular.hidden n (low.trans low') (high'.trans_le high), ?_⟩
  intro n low' high' blinded hidden call k keyset mem
  exact regular.proves n (low.trans low') (high'.trans_le high) blinded hidden call k keyset
    (same ▸ mem)

/-- A wallet that takes a complete mint for its own and is not at work on any proofs. -/
structure Scene.AtRest (x : Scene S (Mint S × Nat)) : Prop extends Scene.Faces x where
  complete : x.mint.1.Complete
  idle : x.wallet.memory.claimed = []

/-- So is a new wallet before a mint whose keysets have different identifiers, whatever that mint
has been asked for since it was made. -/
theorem Scene.atRest_of_create {m : Mint S} (created : Mint.create S = .ok m)
    (ids : (m.keysets.map (·.id)).Nodup) (lightning : Lightning)
    (calls : List (MintSource S × MintCall S)) (settings : Settings) (n drawn named : Nat) :
    Scene.AtRest ⟨.ofStore settings .empty, ((Mint.serveAll lightning m calls).2, n), drawn,
      named⟩ := by
  have sound := Mint.sound_of_create created ids
  have same := (Mint.follows_serveAll lightning m calls).keysets
  refine ⟨⟨⟨?_, ?_⟩, List.forall_mem_nil _⟩, (Mint.complete_of_create created).of_keysets same, rfl⟩
  · rw [same]
    exact sound.ids
  · rw [same]
    exact sound.amounts

theorem Scene.AtRest.calm {x y : Scene S (Mint S × Nat)} (atRest : x.AtRest) (calm : x.Calm y)
    (same : y.wallet.memory.claimed = x.wallet.memory.claimed) : y.AtRest :=
  ⟨calm.faces atRest.toFaces, atRest.complete.of_keysets (congrArg Mint.keysets calm.mint),
    same.trans atRest.idle⟩

/-- The keyset that the wallet takes for current is one that it has stored. -/
structure Scene.Current (x : Scene S (Mint S × Nat)) (k : Keyset S) : Prop
    extends Scene.Stored x k where
  current : x.wallet.memory.current = some k.id

namespace World

variable {supply : Supply S} {lightning : Lightning} {x y : Scene S (Mint S × Nat)}

theorem yields_ask {call : MintCall S} {Q : call.Result → Scene S (Mint S × Nat) → Prop}
    (granted : ∀ n, ∃ answer m, x.mint.1.serve lightning (supply.source n) call = (.ok answer, m) ∧
      ∀ n, Q answer { x with mint := (m, n) }) :
    (supply.world lightning).Yields (Operation.askMint call) x Q := by
  obtain ⟨w, ⟨m, n⟩, drawn, named⟩ := x
  obtain ⟨answer, m', served, done⟩ := granted n
  have answered : (supply.world lightning).answer call (m, n) = (.ok answer, (m', n + 1)) := by
    rw [answer_eq, served]
    rfl
  refine .askMint (fun answer' mint' told => ?_) fun e mint' told => ?_
  · cases answered.symm.trans told
    exact done (n + 1)
  · cases answered.symm.trans told

theorem refused_ask {call : MintCall S} {r : Refusal}
    (refused : ∀ n, (x.mint.1.serve lightning (supply.source n) call).1 = .error r) :
    (supply.world lightning).Ends (Operation.askMint call) x (fun _ _ => False)
      fun e y => e = .ofRefusal r ∧ x.Calm y := by
  obtain ⟨w, ⟨m, n⟩, drawn, named⟩ := x
  have answered : (supply.world lightning).answer call (m, n) =
      (.error (.ofRefusal r), (m, n + 1)) := by
    rw [answer_eq, refused n, Mint.serve_refused (refused n)]
    rfl
  refine .askMint (fun answer' mint' told => ?_) fun e mint' told => ?_
  · cases answered.symm.trans told
  · cases answered.symm.trans told
    exact ⟨rfl, .served ⟨w, (m, n), drawn, named⟩ (n + 1)⟩

/-! ## Keysets -/

theorem yields_addKeyset {k : Keyset S} (faces : x.Faces)
    (published : x.mint.1.keyset k.id = .ok k) (verified : k.verifies) :
    (supply.world lightning).Yields (Operation.askStore (.addKeyset k)) x
      fun _ y => x.Calm y ∧ y.Stored k ∧ y.wallet.memory = x.wallet.memory := by
  have added : (supply.world lightning).Yields (Operation.askStore (.addKeyset k)) x
      fun _ y => y.wallet.memory = x.wallet.memory := by
    refine (ends_learn k x).mono ?_ fun _ _ bad => ?_
    · rintro _ _ ⟨-, rfl⟩
      rfl
    · rw [verified] at bad
      cases bad.1
  refine ((ends_addKeyset fun _ => published).sure added).mono ?_ fun _ _ h => h
  rintro _ y ⟨⟨calm, stored⟩, same⟩
  exact ⟨calm, stored faces, same⟩

theorem yields_fetchKeys (faces : x.Faces) (complete : x.mint.1.Complete) :
    (supply.world lightning).Yields Wallet.fetchKeys x
      fun k y => x.Calm y ∧ y.Current k ∧ y.wallet.memory.claimed = x.wallet.memory.claimed := by
  obtain ⟨k, current⟩ := complete.exists_current
  have published := faces.sound.keyset_of_current current
  have verified := complete.verifies published
  refine .seq (yields_ask fun _ => ⟨k, x.mint.1, congrArg (·, _) current, fun n => ?_⟩)
  have asked := Scene.Calm.served x n
  refine .guard (fun wrong => ?_) fun _ => ?_
  · rw [verified] at wrong
    cases wrong
  refine .bind (yields_addKeyset (asked.faces faces) published verified) ?_
  rintro _ y ⟨added, stored, same⟩
  refine .seq (.askMemory (.pure ⟨?_, ⟨⟨stored.published, stored.stored⟩, rfl⟩, ?_⟩))
  · exact asked.trans (added.trans (.withMemory y _))
  · show y.wallet.memory.claimed = _
    rw [same]

theorem yields_fetchKeysOf (faces : x.Faces) (complete : x.mint.1.Complete) {id : KeysetId}
    {k : Keyset S} (published : x.mint.1.keyset id = .ok k) :
    (supply.world lightning).Yields (Wallet.fetchKeysOf id) x
      fun k' y => k' = k ∧ x.Calm y ∧ y.wallet.memory = x.wallet.memory := by
  have named := Mint.id_of_keyset published
  rcases found : x.wallet.store.keyset? id with _ | k'
  · refine .seq (.askStore (fun known store called => ?_) fun _ _ called => nomatch called)
    obtain ⟨known, same⟩ := Prod.mk.inj called
    cases known.symm.trans (congrArg Except.ok found)
    cases same
    refine .seq (yields_ask fun _ => ⟨k, x.mint.1, congrArg (·, _) published, fun n => ?_⟩)
    have asked := Scene.Calm.served x n
    have verified := complete.verifies published
    refine .guard (fun wrong => ?_) fun _ => ?_
    · rw [verified] at wrong
      simp [named] at wrong
    refine .bind (yields_addKeyset (asked.faces faces) (named.symm ▸ published) verified) ?_
    rintro _ y ⟨added, -, same⟩
    exact .pure ⟨rfl, asked.trans added, same⟩
  · obtain ⟨there, same⟩ := faces.stored found
    refine (ends_fetchKeysOf_stored found).mono ?_ fun _ _ h => h
    rintro _ _ ⟨rfl, rfl⟩
    have published' := there.published
    rw [same, published] at published'
    exact ⟨(Except.ok.inj published').symm, refl _, rfl⟩

theorem yields_currentKeyset (faces : x.Faces) (complete : x.mint.1.Complete) :
    (supply.world lightning).Yields Wallet.currentKeyset x
      fun k y => x.Calm y ∧ y.Current k ∧ y.wallet.memory.claimed = x.wallet.memory.claimed := by
  refine .bind (ends_cachedCurrent x) ?_
  rintro cached _ ⟨rfl, known⟩
  cases cached with
  | none => exact yields_fetchKeys faces complete
  | some k =>
    obtain ⟨id, current, found⟩ := Option.bind_eq_some_iff.1 known.symm
    obtain ⟨there, rfl⟩ := faces.stored found
    exact .pure ⟨refl _, ⟨there, current⟩, rfl⟩

theorem yields_denominations_current {k : Keyset S} (here : x.Current k) (settings : Settings) :
    (supply.world lightning).Yields (Wallet.denominations settings) x
      fun d y => y = x ∧ d = k.keys.denominations := by
  refine (yields_denominations settings x).mono ?_ fun _ _ h => h
  rintro d y ⟨rfl, same⟩
  refine ⟨rfl, same k ?_⟩
  rw [Scene.known, here.current]
  exact here.stored

/-- The proofs of equality of valid proofs all hold. -/
theorem yields_checkDleqs (faces : x.Faces) (complete : x.mint.1.Complete)
    {proofs : List (Proof S)} (valid : ∀ p ∈ proofs, x.mint.1.Valid p) :
    (supply.world lightning).Yields (Wallet.checkDleqs proofs) x
      fun _ y => x.Calm y ∧ y.wallet.memory = x.wallet.memory := by
  induction proofs generalizing x with
  | nil => exact .pure ⟨refl x, rfl⟩
  | cons p rest ih =>
    obtain ⟨first, others⟩ := List.forall_mem_cons.1 valid
    refine .ite (fun some => ?_) fun _ => ih faces complete others
    obtain ⟨pair, paired, -, equal⟩ := first
    obtain ⟨k, published⟩ := Mint.exists_keyset_of_keyPair paired
    refine .bind (yields_fetchKeysOf faces complete published) ?_
    rintro _ y ⟨rfl, calm, same⟩
    dsimp only
    rw [faces.sound.get?_keys published paired]
    refine .guard (fun wrong => ?_) fun _ => ?_
    · rw [equal some] at wrong
      cases wrong
    · refine (ih (calm.faces faces) (complete.of_keysets (congrArg Mint.keysets calm.mint))
        fun q mem => calm.mint.symm ▸ others q mem).mono ?_ fun _ _ h => h
      rintro _ z ⟨next, same'⟩
      exact ⟨calm.trans next, same'.trans same⟩

/-! ## Exchanging proofs -/

end World

theorem Memory.claim_of_idle {memory : Memory S} (idle : memory.claimed = []) (ys : List S.Point) :
    memory.claim ys =
      (true, { memory with operations := memory.operations + 1, claimed := ys }) := by
  rw [Memory.claim, idle, if_neg (by simp), List.nil_append]

/-- The most that an exchange draws: a secret for each denomination of each of its two parts. -/
def splitDraws : Nat := 2 * 64

namespace World

variable {supply : Supply S} {lightning : Lightning} {x y : Scene S (Mint S × Nat)}

theorem yields_premintFor (id : KeysetId) {d : Denominations} (all : d.order = 64) (amount : Amount)
    (x : Scene S (Mint S × Nat)) (hidden : ∀ i, x.drawn ≤ i → i < x.drawn + 64 → ∃ blinded,
      Blind.blind S (supply.draw i).1.toBytes (supply.draw i).2 = .ok blinded) :
    (supply.world lightning).Yields (Operation.premintFor id d amount) x
      fun p y => p.size ≤ 64 ∧ p.keysetId = id ∧ y = { x with drawn := x.drawn + p.size } := by
  obtain ⟨parts, decomposed⟩ := Denominations.exists_decompose all amount
  have few := Denominations.length_decompose_le decomposed
  have made : (supply.world lightning).Yields (Operation.premintFor id d amount) x
      fun _ _ => True := by
    refine .seq (.known (mapError_eq_ok.2 decomposed) (yields_premint id parts x ?_))
    exact fun i low high => hidden i low (Nat.lt_of_lt_of_le high (Nat.add_le_add_left few _))
  refine ((ends_premintFor id d amount x).sure made).mono ?_ fun _ _ h => h
  rintro p y ⟨⟨decomposed', named, drawn, rfl⟩, -⟩
  cases decomposed.symm.trans decomposed'
  rw [Premint.length_amounts] at few
  exact ⟨few, named, rfl⟩

theorem yields_prepareSplit (faces : x.Faces) (complete : x.mint.1.Complete)
    (regular : supply.Regular x.mint.1 x.drawn (x.drawn + splitDraws)) (settings : Settings)
    {proofs : List (Proof S)} {total amount : Amount} (counted : Proof.total proofs = .ok total)
    (within : amount.toNat ≤ total.toNat) :
    (supply.world lightning).Yields (prepareSplit settings proofs amount) x
      fun p y => (supply.world lightning).Prepared proofs amount x p y ∧
        (x.Idle y ∧ ∃ k, y.Stored k ∧ p.keep.keysetId = k.id) ∧
        y.wallet.memory.claimed = x.wallet.memory.claimed ∧
        p.keep.size + p.send.size ≤ splitDraws := by
  have done : (supply.world lightning).Yields (prepareSplit settings proofs amount) x
      fun p y => y.wallet.memory.claimed = x.wallet.memory.claimed ∧
        p.keep.size + p.send.size ≤ splitDraws := by
    refine .bind (yields_currentKeyset faces complete) ?_
    rintro k y ⟨calm, here, claimed⟩
    have all := complete.order_eq faces.sound (calm.mint ▸ here.published)
    have hidden (i : Nat) (low : y.drawn ≤ i) (high : i < y.drawn + splitDraws) := by
      rw [calm.drawn] at low high
      exact regular.hidden i low high
    have most : splitDraws = 64 + 64 := rfl
    refine .bind (yields_denominations_current here settings) ?_
    rintro d _ ⟨rfl, rfl⟩
    refine .seq (.known (mapError_eq_ok.2 counted) ?_)
    rw [Amount.sub?, if_pos within]
    refine .bind (yields_premintFor k.id all _ _ fun i low high => hidden i low (by omega)) ?_
    rintro keep _ ⟨few, -, rfl⟩
    refine .bind (yields_premintFor k.id all _ _ fun i low high => hidden i ?_ ?_) ?_
    · exact (Nat.le_add_right _ _).trans low
    · dsimp only at high
      omega
    · rintro send _ ⟨few', -, rfl⟩
      refine .pure ⟨claimed, ?_⟩
      rw [most]
      exact Nat.add_le_add few few'
  refine (((ends_prepareSplit settings proofs amount x).and
    (ends_prepareSplit_idle settings proofs amount x)).sure done).mono ?_ fun _ _ h => h
  rintro p y ⟨⟨ready, idle, stored⟩, claimed, size⟩
  exact ⟨ready, ⟨idle, stored faces⟩, claimed, size⟩

/-- What an exchange comes to that the mint has granted. -/
structure Renewed (x : Scene S (Mint S × Nat)) (ys : List S.Point) (new : List (Proof S))
    (y : Scene S (Mint S × Nat)) : Prop where
  unspent : ∀ z ∈ ys, z ∉ x.mint.1.spent
  taken : y.mint.1 = { x.mint.1 with spent := x.mint.1.spent ++ ys }
  valid : ∀ p ∈ new, x.mint.1.Valid p
  atRest : y.AtRest
  drawn : y.drawn ≤ x.drawn + splitDraws

/-- What it comes to when a proof has been taken before. -/
structure Refused (x : Scene S (Mint S × Nat)) (ys : List S.Point) (e : Error S)
    (y : Scene S (Mint S × Nat)) : Prop where
  spent : ∃ z ∈ ys, z ∈ x.mint.1.spent
  error : e = .doubleSpend "Token already spent."
  idle : x.Idle y

theorem Renewed.of_calm {ys : List S.Point} {new : List (Proof S)} {z : Scene S (Mint S × Nat)}
    (h : Renewed y ys new z) (calm : x.Calm y) : Renewed x ys new z :=
  ⟨calm.mint ▸ h.unspent, calm.mint ▸ h.taken, calm.mint ▸ h.valid, h.atRest, calm.drawn ▸ h.drawn⟩

theorem Refused.of_calm {ys : List S.Point} {e : Error S} {z : Scene S (Mint S × Nat)}
    (h : Refused y ys e z) (calm : x.Calm y) : Refused x ys e z :=
  ⟨calm.mint ▸ h.spent, h.error, calm.idle.trans h.idle⟩

/-- An exchange that the mint can be asked for: its proofs are claimed, and outputs of a keyset that
the mint publishes are prepared. -/
structure Readied (supply : Supply S) (lightning : Lightning) (x : Scene S (Mint S × Nat))
    (proofs : List (Proof S)) (ys : List S.Point) (amount : Amount) (k : Keyset S)
    (p : PreparedSplit S) (y : Scene S (Mint S × Nat)) : Prop
    extends World.Prepared (supply.world lightning) proofs amount x p y where
  idle : x.Idle y
  stored : y.Stored k
  named : p.keep.keysetId = k.id
  claimed : y.wallet.memory.claimed = ys
  size : p.keep.size + p.send.size ≤ splitDraws

theorem Prepared.of_calm {world : World S (Mint S × Nat)} {proofs : List (Proof S)}
    {amount : Amount} {p : PreparedSplit S} {z : Scene S (Mint S × Nat)}
    (h : world.Prepared proofs amount y p z) (calm : x.Calm y) :
    world.Prepared proofs amount x p z where
  inputs := h.inputs
  amounts := h.amounts
  keep := calm.drawn ▸ h.keep
  send := calm.drawn ▸ h.send
  drawn := calm.drawn ▸ h.drawn
  books := h.books.trans calm.books

theorem yields_prepareSplit_claimed (atRest : x.AtRest)
    (regular : supply.Regular x.mint.1 x.drawn (x.drawn + splitDraws)) (settings : Settings)
    {proofs : List (Proof S)} {total amount : Amount} (counted : Proof.total proofs = .ok total)
    (within : amount.toNat ≤ total.toNat) (ys : List S.Point) :
    (supply.world lightning).Yields (prepareSplit settings proofs amount)
      (x.withMemory (x.wallet.memory.claim ys).2)
      fun p y => ∃ k, Readied supply lightning x proofs ys amount k p y := by
  have calm := Scene.Calm.withMemory x (x.wallet.memory.claim ys).2
  refine (yields_prepareSplit (calm.faces atRest.toFaces) atRest.complete regular settings counted
    within).mono ?_ fun _ _ h => h
  rintro p y ⟨ready, ⟨idle, k, stored, named⟩, claimed, size⟩
  refine ⟨k, ready.of_calm calm, calm.idle.trans idle, stored, named, claimed.trans ?_, size⟩
  show (x.wallet.memory.claim ys).2.claimed = ys
  rw [Memory.claim_of_idle atRest.idle]

namespace Readied

variable {proofs : List (Proof S)} {ys : List S.Point} {amount : Amount} {k : Keyset S}
  {p : PreparedSplit S}

theorem published (h : Readied supply lightning x proofs ys amount k p y) :
    x.mint.1.keyset k.id = .ok k :=
  h.idle.mint ▸ h.stored.published

/-- If it has taken one of the proofs before, the mint refuses the exchange. -/
theorem refused_ask (h : Readied supply lightning x proofs ys amount k p y)
    (points : Proof.ys proofs = .ok ys) (distinct : ys.Nodup)
    (spent : ∃ z ∈ ys, z ∈ x.mint.1.spent) :
    (supply.world lightning).Ends (Operation.askMint (.split p.request)) y (fun _ _ => False)
      fun e w => e = .doubleSpend "Token already spent." ∧ y.Calm w := by
  obtain ⟨z, mem, taken⟩ := spent
  have given : p.request.proofs = proofs := h.inputs
  refine World.refused_ask (r := Mint.alreadySpent) fun n => ?_
  rw [Mint.serve, Mint.split_of_spent _ (given.symm ▸ points) distinct mem
    (h.idle.mint.symm ▸ taken)]
  rfl

/-- What an exchange comes to once its outcome is stored and the given proofs are released. -/
theorem renewed (h : Readied supply lightning x proofs ys amount k p y) (atRest : x.AtRest)
    (unspent : ∀ z ∈ ys, z ∉ x.mint.1.spent) {new : List (Proof S)}
    (valid : ∀ q ∈ new, x.mint.1.Valid q) {rows : List (ProofRow S)} {store : Store S}
    (stored : y.wallet.store.update rows ys none = .ok store) (n : Nat) :
    Renewed x ys new
      (({ y with mint := ({ x.mint.1 with spent := x.mint.1.spent ++ ys }, n) } :
        Scene S (Mint S × Nat)).withStore store |>.withMemory (y.wallet.memory.release ys)) := by
  have asked := (h.idle.faces atRest.toFaces).withMint
    (m := { x.mint.1 with spent := x.mint.1.spent ++ ys }) (by rw [h.idle.mint]) n
  have faces := asked.withStore (Store.keysets_of_update stored)
  refine ⟨unspent, rfl, valid, ⟨⟨faces.sound, faces.registered⟩,
    atRest.complete.of_keysets rfl, ?_⟩, ?_⟩
  · -- All that was claimed has been released.
    show y.wallet.memory.claimed.filter (!ys.contains ·) = []
    simp [h.claimed]
  · show y.drawn ≤ x.drawn + splitDraws
    rw [h.drawn]
    exact Nat.add_le_add_left h.size _

end Readied

/-- Each output that has been prepared is for a power of two and made of one of the draws. -/
theorem Prepared.exists_draw {world : World S τ} {x y : Scene S τ} {proofs : List (Proof S)}
    {amount : Amount} {p : PreparedSplit S} (h : world.Prepared proofs amount x p y) {o : Output S}
    (mem : o ∈ p.request.outputs) : (∃ n, o.amount.toNat = 2 ^ n) ∧
      ∃ i, x.drawn ≤ i ∧ i < x.drawn + (p.keep.size + p.send.size) ∧
        Blind.blind S (world.draw i).1.toBytes (world.draw i).2 = .ok o.blinded := by
  obtain ⟨d, total, rest, -, -, keep, send⟩ := h.amounts
  rcases List.mem_append.1 mem with mem | mem
  · obtain ⟨item, there, rfl⟩ := List.mem_map.1 mem
    obtain ⟨part, i, low, high, hidden⟩ := h.keep.exists_draw there
    rw [Premint.length_amounts] at high
    exact ⟨Denominations.exists_pow_of_mem_decompose keep part, i, low, by omega, hidden⟩
  · obtain ⟨item, there, rfl⟩ := List.mem_map.1 mem
    obtain ⟨part, i, low, high, hidden⟩ := h.send.exists_draw there
    rw [Premint.length_amounts] at high
    exact ⟨Denominations.exists_pow_of_mem_decompose send part, i, by omega, by omega, hidden⟩

theorem Prepared.total_outputs {world : World S τ} {x y : Scene S τ} {proofs : List (Proof S)}
    {amount total : Amount} {p : PreparedSplit S} (h : world.Prepared proofs amount x p y)
    (counted : Proof.total proofs = .ok total) : Output.total p.request.outputs = .ok total := by
  obtain ⟨d, total', rest, counted', left, keep, send⟩ := h.amounts
  cases counted.symm.trans counted'
  obtain ⟨within, left⟩ := Amount.toNat_of_sub? left
  have worth : Amount.exactSum (p.keep.amounts ++ p.send.amounts) = total.toNat := by
    rw [Amount.exactSum_append, Denominations.exactSum_decompose keep,
      Denominations.exactSum_decompose send]
    omega
  rw [Output.total, amounts_request, Amount.sum_eq_ofExact, worth]
  exact Amount.ofExact_of_lt total.lt

variable {G : Type} [AddCommGroup G] (laws : S.Laws G)

include laws

/-- Whatever nonces it signs with, a complete mint grants what has been prepared. -/
theorem Prepared.exists_split {m : Mint S} (complete : m.Complete) {proofs : List (Proof S)}
    {ys : List S.Point} {total amount : Amount} {p : PreparedSplit S}
    (h : (supply.world lightning).Prepared proofs amount x p y) {k : Keyset S}
    (published : m.keyset p.keep.keysetId = .ok k) (accepted : m.Accepts proofs ys)
    (counted : Proof.total proofs = .ok total) (size : p.keep.size + p.send.size ≤ splitDraws)
    (regular : supply.Regular m x.drawn (x.drawn + splitDraws)) (n : Nat) :
    ∃ answer, m.split (supply.source n).nonces p.request =
      .ok (answer, { m with spent := m.spent ++ ys }) := by
  have given : p.request.proofs = proofs := h.inputs
  refine complete.exists_split laws published (given.symm ▸ accepted) (given.symm ▸ counted)
    (h.total_outputs counted) (fun o mem => ⟨?_, (h.exists_draw mem).1⟩) fun o mem i => ?_
  · rw [outputs_request] at mem
    obtain ⟨item, there, rfl⟩ := List.mem_map.1 mem
    exact (h.own there).1
  · obtain ⟨-, j, low, high, hidden⟩ := h.exists_draw mem
    have below := Nat.lt_of_lt_of_le high (Nat.add_le_add_left size _)
    exact regular.proves j low below _ hidden n i

namespace Readied

variable {proofs : List (Proof S)} {ys : List S.Point} {amount : Amount} {k : Keyset S}
  {p : PreparedSplit S}

/-- Unless it has taken one of the proofs before, the mint grants the exchange. -/
theorem yields_ask (h : Readied supply lightning x proofs ys amount k p y)
    (complete : x.mint.1.Complete) (accepted : x.mint.1.Accepts proofs ys) {total : Amount}
    (counted : Proof.total proofs = .ok total)
    (regular : supply.Regular x.mint.1 x.drawn (x.drawn + splitDraws)) :
    (supply.world lightning).Yields (Operation.askMint (.split p.request)) y
      fun (answer : SplitResponse S) z => ∃ n,
        z = { y with mint := ({ x.mint.1 with spent := x.mint.1.spent ++ ys }, n) } ∧
          x.mint.1.Splits p.request answer.promises ys z.mint.1 := by
  have given : p.request.proofs = proofs := h.inputs
  refine World.yields_ask fun n => ?_
  obtain ⟨answer, done⟩ := h.exists_split laws complete (h.named.symm ▸ h.published) accepted
    counted h.size regular n
  obtain ⟨ys', splits⟩ := Mint.split_eq_ok done
  cases (given.symm ▸ accepted.points).symm.trans splits.accepted.points
  refine ⟨answer, _, ?_, fun n => ⟨n, rfl, splits⟩⟩
  rw [h.idle.mint, Mint.serve, done]
  rfl

end Readied

/-- Proofs that the mint has signed are exchanged or, if it has taken one of them before, refused as
a double spend. -/
theorem ends_splitInto_signed (atRest : x.AtRest) (settings : Settings) (status : ProofStatus)
    {proofs : List (Proof S)} {ys : List S.Point} {total amount : Amount}
    (positive : amount ≠ .zero) (counted : Proof.total proofs = .ok total)
    (within : amount.toNat ≤ total.toNat) (points : Proof.ys proofs = .ok ys)
    (distinct : ys.Nodup) (signed : ∀ p ∈ proofs, x.mint.1.Signed p)
    (regular : supply.Regular x.mint.1 x.drawn (x.drawn + splitDraws))
    (fresh : (∀ z ∈ ys, z ∉ x.mint.1.spent) → (supply.world lightning).Fresh x.drawn
      (x.drawn + splitDraws) (knownPoints x.wallet.store ys)) :
    (supply.world lightning).Ends (splitInto settings status proofs amount) x
      (fun parts y => Renewed x ys (parts.1 ++ parts.2) y) (Refused x ys) := by
  have unrepeated := Proof.hasRepeated_eq_false.2 (Proof.nodup_secrets_of_ys points distinct)
  have free := Memory.claim_of_idle atRest.idle ys
  unfold splitInto
  refine .guard (fun nothing => absurd nothing positive) fun _ => ?_
  refine .guard (fun repeated => ?_) fun _ => ?_
  · rw [unrepeated] at repeated
    cases repeated
  refine .seq (.known (mapError_eq_ok.2 counted) ?_)
  refine .guard (fun less => absurd within (Nat.not_le.2 less)) fun _ => ?_
  refine .seq (.known (mapError_eq_ok.2 points) ?_)
  refine .claimed (fun refused => ?_) ?_
  · rw [free] at refused
    cases refused
  refine .seq ((yields_prepareSplit_claimed atRest regular settings counted within ys).mono ?_
    fun _ _ failed => failed.elim)
  rintro p y ⟨k, ready⟩
  by_cases spent : ∃ z ∈ ys, z ∈ x.mint.1.spent
  · refine .seq ((ready.refused_ask points distinct spent).mono (fun _ _ h => h.elim) ?_)
    rintro e w ⟨rfl, calm⟩
    exact ⟨spent, rfl, (ready.idle.trans calm.idle).withMemory _⟩
  · have unspent : ∀ z ∈ ys, z ∉ x.mint.1.spent := fun z mem taken => spent ⟨z, mem, taken⟩
    have accepted : x.mint.1.Accepts proofs ys :=
      ⟨points, distinct, unspent, Mint.checkSignatures_eq_ok.2 signed⟩
    refine .seq ((ready.yields_ask laws atRest.complete accepted counted regular).mono ?_
      fun _ _ failed => failed.elim)
    rintro answer _ ⟨n, rfl, splits⟩
    have amounts := splits.amounts.trans (amounts_request p)
    refine (ends_takeIn laws (x := { y with
      mint := ({ x.mint.1 with spent := x.mint.1.spent ++ ys }, n) }) atRest.sound ready.published
      splits.signed amounts (fun item mem => ready.named ▸ ready.own mem) ready.named
      ready.stored.stored settings status ys).mono ?_ ?_
    · rintro parts _ ⟨valid, rows, store, stored, rfl⟩
      exact ready.renewed atRest unspent valid stored n
    · -- The points of the new secrets are in no archive.
      rintro e _ ⟨rfl, keep, send, rows, e', keepMade, sendMade, rowPoints, failed⟩
      obtain ⟨-, -, length, secrets⟩ := ready.made amounts keepMade sendMade
      have updated := (fresh unspent).update
        (by rw [length]; exact Nat.add_le_add_left ready.size _) secrets rowPoints
        ready.idle.books none
      cases updated.symm.trans failed

/-! ## Receiving -/

theorem ends_redeem_valid (atRest : x.AtRest) (settings : Settings) {proofs : List (Proof S)}
    {ys : List S.Point} {total : Amount} (positive : total ≠ .zero)
    (counted : Proof.total proofs = .ok total) (points : Proof.ys proofs = .ok ys)
    (distinct : ys.Nodup) (valid : ∀ p ∈ proofs, x.mint.1.Valid p)
    (regular : supply.Regular x.mint.1 x.drawn (x.drawn + splitDraws))
    (fresh : (∀ z ∈ ys, z ∉ x.mint.1.spent) → (supply.world lightning).Fresh x.drawn
      (x.drawn + splitDraws) (knownPoints x.wallet.store ys)) :
    (supply.world lightning).Ends (redeem settings proofs) x
      (fun redeemed y => Proof.total redeemed = .ok total ∧ ∃ new, Renewed x ys new y)
      (Refused x ys) := by
  have exchange (z : Scene S (Mint S × Nat)) (calm : x.Calm z)
      (same : z.wallet.memory.claimed = x.wallet.memory.claimed) :
      (supply.world lightning).Ends (do
        let total ← Operation.totalOf proofs
        let parts ← split settings proofs total
        return parts.2) z
      (fun redeemed y => Proof.total redeemed = .ok total ∧ ∃ new, Renewed x ys new y)
      (Refused x ys) := by
    refine .seq (.known (mapError_eq_ok.2 counted) ?_)
    refine .seq (((ends_splitInto settings .unspent proofs total z).and
      (ends_splitInto_signed laws (atRest.calm calm same) settings .unspent positive counted
        (Nat.le_refl _) points distinct (fun p mem => calm.mint.symm ▸ (valid p mem).signed)
        ?_ ?_)).mono ?_ fun e y refused => refused.2.of_calm calm)
    · rw [calm.mint, calm.drawn]
      exact regular
    · rw [calm.mint, calm.drawn, knownPoints_of_books calm.books]
      exact fresh
    · rintro parts y ⟨made, renewed⟩
      obtain ⟨d, _, _, -, -, -, sent⟩ := made.amounts
      have worth : Proof.exactTotal parts.2 = total.toNat := Denominations.exactSum_decompose sent
      refine .pure ⟨?_, _, renewed.of_calm calm⟩
      rw [Proof.total_eq_ofExact, worth]
      exact Amount.ofExact_of_lt total.lt
  refine .ite (fun _ => ?_) fun _ => exchange x (refl x) rfl
  refine .seq ((yields_checkDleqs atRest.toFaces atRest.complete valid).mono ?_
    fun _ _ failed => failed.elim)
  rintro _ z ⟨calm, same⟩
  exact exchange z calm (congrArg Memory.claimed same)

/-- Receiving a token of valid proofs answers with their value or, if one of them has been taken
before, is refused as a double spend. -/
theorem ends_receive_valid (atRest : x.AtRest) (settings : Settings) {text : String}
    {token : Token S} {ys : List S.Point} {total : Amount}
    (decoded : Token.ofText S text = .ok token)
    (own : ∀ mint ∈ token.mints, mint = settings.mintUrl) (positive : total ≠ .zero)
    (counted : Proof.total token.proofs = .ok total) (points : Proof.ys token.proofs = .ok ys)
    (distinct : ys.Nodup) (valid : ∀ p ∈ token.proofs, x.mint.1.Valid p)
    (regular : supply.Regular x.mint.1 x.drawn (x.drawn + splitDraws))
    (fresh : (∀ z ∈ ys, z ∉ x.mint.1.spent) → (supply.world lightning).Fresh x.drawn
      (x.drawn + splitDraws) (knownPoints x.wallet.store ys)) :
    (supply.world lightning).Ends (receive settings text) x
      (fun received y => received = total ∧ ∃ new, Renewed x ys new y) (Refused x ys) := by
  have foreign : token.mints.find? (· ≠ settings.mintUrl) = none := by
    rw [List.find?_eq_none]
    intro mint mem
    simpa using own mint mem
  refine .seq (.known (mapError_eq_ok.2 decoded) ?_)
  rw [foreign]
  refine .seq ((ends_redeem_valid laws atRest settings positive counted points distinct valid
    regular fresh).mono ?_ fun _ _ refused => refused)
  rintro redeemed y ⟨worth, renewed⟩
  exact .known (mapError_eq_ok.2 worth) ⟨rfl, renewed⟩

end World

end Chaumian.Wallet
