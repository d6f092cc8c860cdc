import Chaumian.Proofs.Wallet.Calls
import Chaumian.Proofs.Wallet.Transfer
import Chaumian.Wallet.Command

/-!
# What new proofs are made of

Whatever a wallet is told to do but to store given proofs, all that it has a row of afterwards was
there before or has been made of a promise in one of the mint's replies, for the output at its place
and under a keyset that the wallet knew. `Made` says how, and `World.gains_operation` that it is so
however the mint replies and however the command ends.

The replies are read off a mint that notes them. Between two scenes of such a mint the replies and
the stored keysets only become more, so what a proof was made of is not forgotten later
(`Made.mono`), and a run is within `Scene.Gains` as soon as its steps are.
-/

namespace Chaumian

variable {S : Suite}

/-- A proof is what a promise for an output comes to under a keyset: the output hides its secret,
and its signature is the one of the promise, unblinded with the key that the keyset has for its
amount and, where that is checked, found to have been made with that key. The identifier that it
carries is the one that the promise names. -/
structure Keyset.Unblinds (k : Keyset S) (checked : Bool) (output : Output S) (promise : Promise S)
    (p : Proof S) : Prop where
  unblinded : ∃ factor key, Blind.blind S p.secret.toBytes factor = .ok output.blinded ∧
    k.keys.get? p.amount = some key ∧
    Blind.unblind S promise.signature factor key = .ok p.signature ∧
    (checked → p.dleq.isSome → p.isSignedBy key)
  amount : p.amount = promise.amount
  keysetId : p.keysetId = promise.keysetId

/-- The proofs of promises are made each of the promise and the output at its place. -/
theorem Premint.unblinds {premint : Premint S} {promises : List (Promise S)} {k : Keyset S}
    {checked : Bool} {proofs : List (Proof S)}
    (made : premint.proofs promises k.keys checked = .ok proofs)
    (hidden : ∀ item ∈ premint.items,
      Blind.blind S item.secret.toBytes item.factor = .ok item.output.blinded)
    {p : Proof S} (mem : p ∈ proofs) :
    ∃ item ∈ premint.items, ∃ promise, (promise, item.output) ∈ promises.zip premint.outputs ∧
      k.Unblinds checked item.output promise p := by
  obtain ⟨-, each⟩ := Proof.proofs_eq_ok.1 made
  obtain ⟨⟨promise, item⟩, pair, made⟩ := exists_of_mem_forall₂ each mem
  obtain ⟨key, signature, known, unblinded, rfl, verified⟩ := Proof.ofPromise_eq_ok.1 made
  have sent : item ∈ premint.items := (List.of_mem_zip pair).2
  refine ⟨item, sent, promise, ?_,
    ⟨item.factor, key, hidden item sent, known, unblinded, verified⟩, rfl, rfl⟩
  rw [Premint.outputs, List.zip_map_right]
  exact List.mem_map.2 ⟨_, pair, rfl⟩

/-- Proofs of the first promises and of the others, made one after the other. -/
theorem Premint.proofs_append {first second : Premint S} {promises : List (Promise S)}
    {keys : Keys S} {checked : Bool} {proofs others : List (Proof S)}
    (made : first.proofs (promises.take first.size) keys checked = .ok proofs)
    (made' : second.proofs (promises.drop first.size) keys checked = .ok others) :
    (first.append second).proofs promises keys checked = .ok (proofs ++ others) := by
  obtain ⟨length, each⟩ := Proof.proofs_eq_ok.1 made
  obtain ⟨length', each'⟩ := Proof.proofs_eq_ok.1 made'
  have whole : promises.zip (first.items ++ second.items) =
      (promises.take first.size).zip first.items ++
        (promises.drop first.size).zip second.items := by
    rw [← List.zip_append length, List.take_append_drop]
  refine Proof.proofs_eq_ok.2 ⟨?_, ?_⟩
  · rw [List.length_take, List.length_drop] at *
    rw [Premint.size, Premint.append, List.length_append]
    change promises.length = first.size + second.size
    omega
  · rw [Premint.append, whole]
    exact List.rel_append each each'

/-- What is beside the first of some outputs is beside the same ones of all of them. -/
theorem Premint.mem_zip_take {premint : Premint S} {promises : List (Promise S)}
    (fits : promises.length ≤ premint.size) {promise : Promise S} {output : Output S}
    (mem : (promise, output) ∈ promises.zip (premint.take promises.length).outputs) :
    (promise, output) ∈ promises.zip premint.outputs := by
  have taken : (premint.take promises.length).outputs = premint.outputs.take promises.length :=
    List.map_take
  have size : premint.outputs.length = premint.size := List.length_map _
  rw [List.zip_eq_zip_take_min, size, Nat.min_eq_left fits, List.take_length, ← taken]
  exact mem

namespace Store

variable {store store' : Store S}

/-- The keysets of a store, and the proofs that it has rows of in whatever state. -/
def stock (store : Store S) : List (Keyset S) × List (Proof S) :=
  (store.keysets, store.proofs.map (·.row.proof))

theorem stock_modifyAll {f : StoredProof S → StoredProof S}
    (keeps : ∀ p, (f p).row.proof = p.row.proof) (ys : List S.Point) :
    (store.modifyAll f ys).stock = store.stock := by
  refine Prod.ext rfl ?_
  rw [stock, modifyAll, List.map_map]
  refine List.map_congr_left fun p _ => ?_
  simp only [Function.comp_apply]
  split
  · exact keeps p
  · rfl

theorem stock_spend (meltId : Option String) (ys : List S.Point) :
    (ys.foldl (spend meltId) store).stock = store.stock := by
  rw [foldl_spend]
  exact stock_modifyAll (f := StoredProof.archive meltId) (fun _ => rfl) ys

theorem stock_setStatus (status : ProofStatus) (ys : List S.Point) :
    (ys.foldl (setStatus status) store).stock = store.stock := by
  rw [foldl_setStatus]
  exact stock_modifyAll (f := StoredProof.withStatus status) (fun _ => rfl) ys

theorem stock_reserve {ys : List S.Point} (reserved : store.reserve ys = .ok store') :
    store'.stock = store.stock := by
  obtain ⟨-, rfl⟩ := reserve_eq_ok reserved
  exact stock_modifyAll (f := StoredProof.withStatus .reserved) (fun _ => rfl) ys

theorem stock_unreserve (ys : List S.Point) : (store.unreserve ys).stock = store.stock := by
  unfold unreserve
  induction ys generalizing store with
  | nil => rfl
  | cons y rest ih =>
    rw [List.foldl_cons, ih]
    split
    · exact stock_setStatus .unspent [y]
    · rfl

theorem mem_proofs_holdAll {rows : List (ProofRow S)} {p : StoredProof S}
    (mem : p ∈ (rows.foldl hold store).proofs) :
    p ∈ store.proofs ∨ ∃ row ∈ rows, p = ⟨row, false⟩ := by
  induction rows generalizing store with
  | nil => exact .inl mem
  | cons row rest ih =>
    obtain mem | ⟨other, there, same⟩ := ih mem
    · obtain rfl | mem := mem_of_mem_put mem
      · exact .inr ⟨row, List.mem_cons_self, rfl⟩
      · exact .inl mem
    · exact .inr ⟨other, List.mem_cons_of_mem _ there, same⟩

/-- What there are rows of after an update was there before or has been added. -/
theorem mem_stock_of_update {added : List (ProofRow S)} {removed : List S.Point}
    {meltId : Option String} (h : store.update added removed meltId = .ok store') {p : Proof S}
    (mem : p ∈ store'.stock.2) : p ∈ store.stock.2 ∨ p ∈ added.map (·.proof) := by
  unfold update at h
  split at h
  · cases h
  · cases h
    rw [stock_spend] at mem
    obtain ⟨q, there, rfl⟩ := List.mem_map.1 mem
    obtain there | ⟨row, new, rfl⟩ := mem_proofs_holdAll there
    · exact .inl (List.mem_map_of_mem there)
    · exact .inr (List.mem_map_of_mem new)

end Store

namespace Wallet

variable {τ α β : Type}

/-- All proofs that a wallet has rows of. -/
def Scene.proofs (x : Scene S τ) : List (Proof S) := x.wallet.store.proofs.map (·.row.proof)

/-! ## Proofs and the replies they are made of -/

/-- An output that the mint was to sign for an invoice or in exchange for proofs, and the promise at
its place in the reply. The wallet takes the promise for one under the keyset: it has that in its
store or, where an invoice is minted, it was told by the mint that this is the current one. -/
inductive Signed (replies : List (Reply S)) (store : Store S) (k : Keyset S) (output : Output S)
    (promise : Promise S) : Prop
  | mint {request : MintRequest S} {response : MintResponse S}
    (replied : ⟨.mint request, .ok response⟩ ∈ replies)
    (beside : (promise, output) ∈ response.promises.zip request.outputs)
    (known : store.keyset? k.id = some k ∨ k.verifies = true ∧ ⟨.keys, .ok k⟩ ∈ replies)
  | split {request : SplitRequest S} {response : SplitResponse S}
    (replied : ⟨.split request, .ok response⟩ ∈ replies)
    (beside : (promise, output) ∈ response.promises.zip request.outputs)
    (stored : store.keyset? k.id = some k)

/-- An output that the mint was to sign as change, and the promise at its place in the reply, all of
whose promises name one keyset, which the wallet has in its store. -/
inductive Changed (replies : List (Reply S)) (store : Store S) (k : Keyset S) (output : Output S)
    (promise : Promise S) : Prop
  | melt {request : MeltRequest S} {response : MeltResponse S}
    (replied : ⟨.melt request, .ok response⟩ ∈ replies)
    (beside : (promise, output) ∈ response.change.zip request.outputs)
    (stored : store.keyset? k.id = some k)
    (one : ∀ other ∈ response.change, other.keysetId = k.id)

/-- A proof has been made of a reply of the mint under a keyset: the one of the output at its place
or, for change, the one that the promises name. -/
inductive Made (replies : List (Reply S)) (store : Store S) (checked : Bool) (p : Proof S) : Prop
  | issued {k : Keyset S} {output : Output S} {promise : Promise S}
    (signed : Signed replies store k output promise)
    (unblinds : k.Unblinds checked output promise p) (own : output.keysetId = k.id)
  | change {k : Keyset S} {output : Output S} {promise : Promise S}
    (changed : Changed replies store k output promise)
    (unblinds : k.Unblinds checked output promise p)

section

variable {replies replies' : List (Reply S)} {store store' : Store S} {k : Keyset S}
  {output : Output S} {promise : Promise S} {checked : Bool} {p : Proof S}

/-- What is known of a promise stays so while replies are only added, and keysets are. -/
theorem Signed.mono (h : Signed replies store k output promise) (more : replies ⊆ replies')
    (kept : ∀ id k, store.keyset? id = some k → store'.keyset? id = some k) :
    Signed replies' store' k output promise := by
  cases h with
  | mint replied beside known =>
    refine .mint (more replied) beside (known.imp (kept _ _) fun told => ?_)
    exact ⟨told.1, more told.2⟩
  | split replied beside stored => exact .split (more replied) beside (kept _ _ stored)

theorem Changed.mono (h : Changed replies store k output promise) (more : replies ⊆ replies')
    (kept : ∀ id k, store.keyset? id = some k → store'.keyset? id = some k) :
    Changed replies' store' k output promise := by
  cases h with
  | melt replied beside stored one => exact .melt (more replied) beside (kept _ _ stored) one

theorem Made.mono (h : Made replies store checked p) (more : replies ⊆ replies')
    (kept : ∀ id k, store.keyset? id = some k → store'.keyset? id = some k) :
    Made replies' store' checked p := by
  cases h with
  | issued signed unblinds own => exact .issued (signed.mono more kept) unblinds own
  | change changed unblinds => exact .change (changed.mono more kept) unblinds

/-- The identifier that change carries is that of its keyset. -/
theorem Changed.named (h : Changed replies store k output promise)
    (unblinds : k.Unblinds checked output promise p) : p.keysetId = k.id := by
  cases h with
  | melt _ beside _ one => exact unblinds.keysetId.trans (one _ (List.of_mem_zip beside).1)

theorem Changed.stored (h : Changed replies store k output promise) :
    store.keyset? k.id = some k := by
  cases h with
  | melt _ _ stored _ => exact stored

/-- A keyset that a promise is taken to be under has been verified if those that are stored have. -/
theorem Signed.verified {first : Store S} (h : Signed replies store k output promise)
    (verified : ∀ id k, store.keyset? id = some k → first.keyset? id = some k ∨ k.verifies = true) :
    first.keyset? k.id = some k ∨ k.verifies = true := by
  cases h with
  | mint _ _ known => exact known.elim (verified _ _) fun told => .inr told.1
  | split _ _ stored => exact verified _ _ stored

end

/-! ## What a run adds -/

/-- From one scene to another one, the mint's replies and the keysets that are stored have only
become more, the keysets by verified ones, and proofs have only come into the store that have been
made of a reply. -/
structure Scene.Gains (checked : Bool) (x y : Scene S (τ × List (Reply S))) : Prop where
  replies : x.mint.2 ⊆ y.mint.2
  kept : ∀ id k, x.wallet.store.keyset? id = some k → y.wallet.store.keyset? id = some k
  verified : ∀ id k, y.wallet.store.keyset? id = some k →
    x.wallet.store.keyset? id = some k ∨ k.verifies = true
  made : ∀ p ∈ y.proofs, p ∈ x.proofs ∨ Made y.mint.2 y.wallet.store checked p

instance (checked : Bool) : IsPreorder (Scene S (τ × List (Reply S))) (Scene.Gains checked) where
  refl _ := ⟨List.Subset.refl _, fun _ _ stored => stored, fun _ _ stored => .inl stored,
    fun _ mem => .inl mem⟩
  trans _ _ _ first second := by
    refine ⟨List.Subset.trans first.replies second.replies, fun id k stored => ?_,
      fun id k stored => ?_, fun p mem => ?_⟩
    · exact second.kept id k (first.kept id k stored)
    · exact (second.verified id k stored).elim (first.verified id k) .inr
    · obtain old | new := second.made p mem
      · exact (first.made p old).imp id fun made => made.mono second.replies second.kept
      · exact .inr new

/-- Where nothing is replied and no keyset taken in, there is only to see what new proofs are. -/
theorem Scene.Gains.of_made {checked : Bool} {x y : Scene S (τ × List (Reply S))}
    (replies : y.mint.2 = x.mint.2) (keysets : y.wallet.store.keysets = x.wallet.store.keysets)
    (made : ∀ p ∈ y.proofs, p ∈ x.proofs ∨ Made x.mint.2 x.wallet.store checked p) :
    Scene.Gains checked x y := by
  have more : x.mint.2 ⊆ y.mint.2 := fun _ mem => replies ▸ mem
  have same (id : KeysetId) : y.wallet.store.keyset? id = x.wallet.store.keyset? id :=
    congrArg (·.find? (·.id = id)) keysets
  refine ⟨more, fun id k stored => ?_, fun id k stored => ?_, fun p mem => ?_⟩
  · exact (same id).trans stored
  · exact .inl ((same id).symm.trans stored)
  · exact (made p mem).imp_right fun made =>
      made.mono more fun id k stored => (same id).trans stored

theorem Scene.Gains.of_stock {checked : Bool} {x y : Scene S (τ × List (Reply S))}
    (replies : y.mint.2 = x.mint.2) (stock : y.wallet.store.stock = x.wallet.store.stock) :
    Scene.Gains checked x y := by
  have proofs : y.proofs = x.proofs := congrArg Prod.snd stock
  exact .of_made replies (congrArg Prod.fst stock) fun p mem => .inl (proofs ▸ mem)

namespace World

variable {world : World S τ} {checked : Bool} {x y : Scene S (τ × List (Reply S))}

theorem gains_remembered (x : Scene S (τ × List (Reply S))) (memory : Memory S) :
    Scene.Gains checked x (x.withMemory memory) :=
  .of_stock rfl rfl

/-- What the mint replies is noted, whatever it is. -/
theorem gains_askMint (call : MintCall S) (x : Scene S (τ × List (Reply S))) :
    world.recorded.Ends (Operation.askMint call) x
      (fun result y => Scene.Gains checked x y ∧ ⟨call, .ok result⟩ ∈ y.mint.2)
      fun _ y => Scene.Gains checked x y := by
  have gained (mint : τ) (reply : Reply S) :
      Scene.Gains checked x { x with mint := (mint, x.mint.2 ++ [reply]) } :=
    ⟨List.subset_append_left _ _, fun _ _ stored => stored, fun _ _ stored => .inl stored,
      fun _ mem => .inl mem⟩
  refine .askRecorded (fun result mint => ⟨gained mint _, ?_⟩) fun e mint => gained mint _
  exact List.mem_append_right _ (List.mem_singleton_self _)

theorem gains_ask (call : MintCall S) :
    world.recorded.Within (Scene.Gains checked) (Operation.askMint call) :=
  fun x => (gains_askMint call x).mono (fun _ _ h => h.1) fun _ _ h => h

/-- A keyset that is shown to the store has been verified if it is taken in. -/
theorem gains_addKeyset (k : Keyset S) :
    world.recorded.Within (Scene.Gains checked) (Operation.askStore (.addKeyset k)) := by
  refine fun x => (ends_learn k x).mono ?_ ?_
  · rintro _ _ ⟨verified, rfl⟩
    refine ⟨List.Subset.refl _, fun id old stored => ?_, fun id new stored => ?_, fun p mem => ?_⟩
    · exact Store.keyset?_learn_of_stored stored k
    · rw [Scene.store_withStore, Store.keyset?_learn] at stored
      obtain old | ⟨-, this⟩ := Option.or_eq_some_iff.1 stored
      · exact .inl old
      · split at this
        · cases this
          exact .inr verified
        · cases this
    · have same : (x.withStore (x.wallet.store.learn k)).proofs = x.proofs :=
        congrArg (fun b => b.1.map (·.row.proof)) (Store.books_learn x.wallet.store k)
      exact .inl (same ▸ mem)
  · rintro _ _ ⟨-, rfl⟩
    exact refl _

/-- Looking things up adds no proofs. -/
theorem registers_gains : world.recorded.Registers (Scene.Gains checked) :=
  .of_addKeyset gains_remembered (fun call _ => gains_ask call) gains_addKeyset

/-- A call of the store that leaves its keysets and proofs as they are. -/
theorem gains_askStore {call : StoreCall S}
    (same : ∀ store, (call.perform store).2.stock = store.stock) :
    world.recorded.Within (Scene.Gains checked) (Operation.askStore call) := by
  refine fun x => .askStore (fun _ store called => ?_) fun _ store called => ?_
  · rw [← show _ = store from congrArg Prod.snd called]
    exact .of_stock rfl (same x.wallet.store)
  · rw [← show _ = store from congrArg Prod.snd called]
    exact .of_stock rfl (same x.wallet.store)

theorem gains_reserve (ys : List S.Point) :
    world.recorded.Within (Scene.Gains checked) (Operation.askStore (.reserve ys)) := by
  refine gains_askStore fun store => ?_
  rw [StoreCall.perform]
  cases done : store.reserve ys with
  | error e => rfl
  | ok reserved => exact Store.stock_reserve done

theorem gains_markSpent (ys : List S.Point) (meltId : Option String) :
    world.recorded.Within (Scene.Gains checked) (Operation.askStore (.markSpent ys meltId)) :=
  gains_askStore fun _ => Store.stock_spend meltId ys

/-- An update with rows of proofs that have been made of the mint's replies. -/
theorem gains_update {rows : List (ProofRow S)} {ys : List S.Point} {meltId : Option String}
    (made : ∀ p ∈ rows.map (·.proof), Made x.mint.2 x.wallet.store checked p) :
    world.recorded.Ends (Operation.askStore (.update rows ys meltId)) x
      (fun _ y => Scene.Gains checked x y) fun _ y => Scene.Gains checked x y := by
  refine ends_update (fun store updated => ?_) fun _ _ => refl x
  refine .of_made rfl (Store.keysets_of_update updated) fun p mem => ?_
  exact (Store.mem_stock_of_update updated mem).imp_right (made p)

/-- The keyset that is fetched for an identifier has that identifier and is stored under it. -/
theorem gains_fetchKeysOf (id : KeysetId) (x : Scene S (τ × List (Reply S))) :
    world.recorded.Ends (fetchKeysOf id) x
      (fun k y => Scene.Gains checked x y ∧ k.id = id ∧ y.wallet.store.keyset? k.id = some k)
      fun _ y => Scene.Gains checked x y := by
  have named : world.recorded.Ends (fetchKeysOf id) x
      (fun k y => k.id = id ∧ y.wallet.store.keyset? k.id = some k) fun _ _ => True := by
    refine .seq (.askStore (fun found _ called => ?_) fun _ _ _ => trivial)
    cases called
    cases stored : x.wallet.store.keyset? id with
    | some k =>
      have named := Store.id_of_keyset? stored
      exact .pure ⟨named, named ▸ stored⟩
    | none =>
      refine .seq (.askMint (fun k mint _ => ?_) fun _ _ _ => trivial)
      refine .guard (fun _ => trivial) fun right => ?_
      have right : k.id = id ∧ k.verifies = true := by simpa using right
      refine .seq ((ends_learn k _).mono ?_ fun _ _ _ => trivial)
      rintro _ _ ⟨-, rfl⟩
      refine .pure ⟨right.1, ?_⟩
      show (x.wallet.store.learn k).keyset? k.id = some k
      rw [Store.keyset?_learn, right.1, stored, if_pos rfl, Option.none_or]
  exact ((registers_gains.fetchKeysOf id x).and named).mono (fun _ _ h => h) fun _ _ h => h.1

/-- The current keyset is stored, or the mint has told it, and it is verified. -/
theorem gains_currentKeyset (x : Scene S (τ × List (Reply S))) :
    world.recorded.Ends currentKeyset x
      (fun k y => Scene.Gains checked x y ∧ (y.wallet.store.keyset? k.id = some k ∨
        k.verifies = true ∧ ⟨.keys, .ok k⟩ ∈ y.mint.2))
      fun _ y => Scene.Gains checked x y := by
  refine .seq ((ends_cachedCurrent x).mono ?_ fun _ _ h => h.elim)
  rintro cached x ⟨rfl, known⟩
  cases cached with
  | some k => exact .pure ⟨refl _, .inl (Scene.stored_of_known known.symm).2⟩
  | none =>
    have told : world.recorded.Ends fetchKeys x
        (fun k y => k.verifies = true ∧ ⟨.keys, .ok k⟩ ∈ y.mint.2) fun _ _ => True := by
      refine .seq (.askRecorded (fun k mint => ?_) fun _ _ => trivial)
      refine .guard (fun _ => trivial) fun wrong => ?_
      have verified : k.verifies = true := by simpa using wrong
      refine .seq ((ends_learn k _).mono ?_ fun _ _ _ => trivial)
      rintro _ _ ⟨-, rfl⟩
      refine .seq (.askMemory (.pure ⟨verified, ?_⟩))
      exact List.mem_append_right _ (List.mem_singleton_self _)
    exact ((registers_gains.fetchKeys x).and told).mono (fun _ _ h => ⟨h.1, .inr h.2⟩)
      fun _ _ h => h.1

/-! ## Operations that have something signed -/

theorem gains_premint (id : KeysetId) (amounts : List Amount)
    (x : Scene S (τ × List (Reply S))) :
    world.recorded.Ends (Operation.premint id amounts) x
      (fun p y => Scene.Gains checked x y ∧ ∀ item ∈ p.items, item.output.keysetId = id ∧
        Blind.blind S item.secret.toBytes item.factor = .ok item.output.blinded)
      fun _ y => Scene.Gains checked x y := by
  refine (ends_premint id amounts x).mono ?_ ?_
  · rintro p _ ⟨-, drawn, rfl⟩
    exact ⟨.of_stock rfl rfl, fun item => drawn.own⟩
  · rintro _ _ ⟨n, rfl⟩
    exact .of_stock rfl rfl

theorem gains_premintFor (id : KeysetId) (d : Denominations) (amount : Amount) :
    world.recorded.Within (Scene.Gains checked) (Operation.premintFor id d amount) := by
  refine .bind (.lift _) fun amounts x => (gains_premint id amounts x).mono ?_ fun _ _ h => h
  exact fun _ _ h => h.1

/-- What is prepared are outputs under one keyset, first those to keep. -/
theorem gains_prepareSplit (settings : Settings) (proofs : List (Proof S)) (amount : Amount)
    (x : Scene S (τ × List (Reply S))) :
    world.recorded.Ends (prepareSplit settings proofs amount) x
      (fun p y => Scene.Gains checked x y ∧ ∀ item ∈ (p.keep.append p.send).items,
        item.output.keysetId = p.keep.keysetId ∧
          Blind.blind S item.secret.toBytes item.factor = .ok item.output.blinded)
      fun _ y => Scene.Gains checked x y := by
  have gained : world.recorded.Within (Scene.Gains checked)
      (prepareSplit settings proofs amount) := by
    refine .bind registers_gains.currentKeyset fun k => ?_
    refine .bind (.denominations settings) fun d => .bind (.lift _) fun total => ?_
    rcases total.sub? amount with _ | rest
    · exact .throw _
    · exact .bind (gains_premintFor k.id d rest) fun _ =>
        .bind (gains_premintFor k.id d amount) fun _ => .pure _
  refine ((gained x).and (ends_prepareSplit settings proofs amount x)).mono ?_ fun _ _ h => h.1
  rintro p y ⟨gained, ready⟩
  refine ⟨gained, fun item mem => ?_⟩
  obtain mem | mem := List.mem_append.1 mem
  · exact ready.keep.own mem
  · exact ready.send.own mem

theorem gains_splitInto (settings : Settings) (status : ProofStatus) (proofs : List (Proof S))
    (amount : Amount) : world.recorded.Within (Scene.Gains settings.verifyDleq)
      (splitInto settings status proofs amount) := by
  unfold splitInto
  refine .guard (.guard (.bind (.lift _) fun total => .guard (.bind (.lift _) fun ys x => ?_)))
  refine .claimingWithin gains_remembered fun memory => ?_
  refine .onward (gains_prepareSplit settings proofs amount _) (fun _ _ h => h.1) ?_
  rintro prepared x₁ ⟨-, own⟩
  refine .onward (gains_askMint _ x₁) (fun _ _ h => h.1) ?_
  rintro response x₂ ⟨-, replied⟩
  refine .seq (.lift (fun _ _ => ?_) fun _ _ => refl x₂)
  refine .onward (gains_fetchKeysOf _ x₂) (fun _ _ h => h.1) ?_
  rintro k x₃ ⟨later, named, stored⟩
  refine .seq (.lift (fun keep keepMade => ?_) fun _ _ => refl x₃)
  refine .seq (.lift (fun send sendMade => ?_) fun _ _ => refl x₃)
  refine .seq (.lift (fun kept keptRows => ?_) fun _ _ => refl x₃)
  refine .seq (.lift (fun sent sentRows => ?_) fun _ _ => refl x₃)
  refine .onward (gains_update fun p mem => ?_) (fun _ _ gained => gained)
    fun _ _ _ => .pure (refl _)
  rw [List.map_append, ProofRow.proofs_of_ofProofs (mapError_eq_ok.1 keptRows),
    ProofRow.proofs_of_ofProofs (mapError_eq_ok.1 sentRows)] at mem
  -- Taken together, the two parts are in the order of the request.
  have made := Premint.proofs_append (mapError_eq_ok.1 keepMade) (mapError_eq_ok.1 sendMade)
  obtain ⟨item, there, promise, beside, unblinds⟩ :=
    Premint.unblinds made (fun item mem => (own item mem).2) mem
  refine .issued (.split (later.replies replied) ?_ stored) unblinds
    ((own item there).1.trans named.symm)
  rwa [outputs_request]

theorem gains_mintProofs (settings : Settings) (amount : Amount) (parts : Option (List Amount))
    (invoiceId : String) : world.recorded.Within (Scene.Gains settings.verifyDleq)
      (mintProofs (S := S) settings amount parts invoiceId) := by
  unfold mintProofs
  refine .guard (.bind (.read fun _ => rfl) fun found x => ?_)
  rcases found with _ | invoice
  · exact .throw (refl x)
  refine .onward (gains_currentKeyset x) (fun _ _ h => h.1) ?_
  rintro k x₁ ⟨-, known⟩
  refine .seq ((ends_denominations settings x₁).mono ?_ fun _ _ same => same ▸ refl _)
  rintro d x₁ rfl
  refine .seq (.lift (fun amounts _ => ?_) fun _ _ => refl x₁)
  refine .claimingWithin gains_remembered fun memory => ?_
  refine .onward (gains_premint k.id amounts _) (fun _ _ h => h.1) ?_
  rintro outputs x₂ ⟨first, own⟩
  refine .onward (gains_askMint _ x₂) (fun _ _ h => h.1) ?_
  rintro response x₃ ⟨second, replied⟩
  have later : Scene.Gains settings.verifyDleq x₁ x₃ :=
    IsTrans.trans _ _ _ (gains_remembered x₁ memory) (IsTrans.trans _ _ _ first second)
  refine .seq (.lift (fun _ _ => ?_) fun _ _ => refl x₃)
  refine .seq (.lift (fun proofs made => ?_) fun _ _ => refl x₃)
  refine .seq (.lift (fun rows rowsMade => ?_) fun _ _ => refl x₃)
  refine .onward (gains_update fun p mem => ?_) (fun _ _ gained => gained) fun _ y _ =>
    .seq (.tryStore (.pure (.of_stock rfl rfl)))
  rw [ProofRow.proofs_of_ofProofs (mapError_eq_ok.1 rowsMade)] at mem
  obtain ⟨item, there, promise, beside, unblinds⟩ :=
    Premint.unblinds (mapError_eq_ok.1 made) (fun item mem => (own item mem).2) mem
  refine .issued (.mint replied beside ?_) unblinds (own item there).1
  exact known.imp (later.kept _ _) fun told => ⟨told.1, later.replies told.2⟩

/-- Change is unblinded with the keys of the one keyset that all promises for it name. -/
theorem gains_changeProofs (settings : Settings) (blank : Premint S)
    (promises : List (Promise S)) (hidden : ∀ item ∈ blank.items,
      Blind.blind S item.secret.toBytes item.factor = .ok item.output.blinded)
    (x : Scene S (τ × List (Reply S))) :
    world.recorded.Ends (changeProofs settings blank promises) x
      (fun change y => Scene.Gains checked x y ∧ ∀ p ∈ change, ∃ (k : Keyset S)
        (output : Output S) (promise : Promise S), (promise, output) ∈ promises.zip blank.outputs ∧
        k.Unblinds settings.verifyDleq output promise p ∧
        y.wallet.store.keyset? k.id = some k ∧ ∀ other ∈ promises, other.keysetId = k.id)
      fun _ y => Scene.Gains checked x y := by
  unfold changeProofs
  refine .guard (fun _ => refl x) fun fits => ?_
  cases promises with
  | nil => exact .pure ⟨refl x, nofun⟩
  | cons first rest =>
    refine .guard (fun _ => refl x) fun one => ?_
    refine .seq ((gains_fetchKeysOf first.keysetId x).mono ?_ fun _ _ h => h)
    rintro k y ⟨gained, named, stored⟩
    refine .lift (fun change made => ⟨gained, fun p mem => ?_⟩) fun _ _ => gained
    have part : (blank.take (first :: rest).length).items =
        blank.items.take (first :: rest).length := rfl
    obtain ⟨item, -, promise, beside, unblinds⟩ := Premint.unblinds (mapError_eq_ok.1 made)
      (fun item mem => hidden item (List.mem_of_mem_take (part ▸ mem))) mem
    refine ⟨k, item.output, promise, Premint.mem_zip_take (Nat.le_of_not_gt fits) beside,
      unblinds, stored, fun other mem => ?_⟩
    -- The keyset that is fetched is the one that the first promise names.
    have all : (first :: rest).any (·.keysetId ≠ first.keysetId) = false := by simpa using one
    have agrees : other.keysetId = first.keysetId := by
      simpa using List.any_eq_false.1 all other mem
    exact agrees.trans named.symm

theorem gains_pay (lightning : Lightning) (settings : Settings) (proofs : List (Proof S))
    (request : String) (feeReserve : Amount) :
    world.recorded.Within (Scene.Gains settings.verifyDleq)
      (pay lightning settings proofs request feeReserve) := by
  unfold pay
  refine .guard (.guard ?_)
  rcases lightning.paymentHash? request with _ | hash
  · exact .throw _
  refine .bind (.lift _) fun total => .bind (.lift _) fun ys x => ?_
  refine .claimingWithin gains_remembered fun memory => ?_
  refine .onward (registers_gains.currentKeyset _) (fun _ _ h => h) fun k x₁ _ => ?_
  refine .onward (gains_premint k.id _ x₁) (fun _ _ h => h.1) ?_
  rintro blank x₂ ⟨-, own⟩
  refine .onward (P := fun _ y => Scene.Gains settings.verifyDleq x₂ y)
    (.freshMeltId (.of_stock rfl rfl)) (fun _ _ h => h) fun id x₃ _ => ?_
  refine .onward (gains_askMint _ x₃) (fun _ _ h => h.1) ?_
  rintro response x₄ ⟨-, replied⟩
  refine .guard (fun _ => refl x₄) fun _ => ?_
  refine .onward (gains_changeProofs settings blank response.change
    (fun item mem => (own item mem).2) x₄) (fun _ _ h => h.1) ?_
  rintro change x₅ ⟨later, each⟩
  refine .seq (.lift (fun changeTotal _ => ?_) fun _ _ => refl x₅)
  refine .seq (.lift (fun rows rowsMade => ?_) fun _ _ => refl x₅)
  refine .onward (gains_update fun p mem => ?_) (fun _ _ gained => gained) fun _ y _ => ?_
  · rw [ProofRow.proofs_of_ofProofs (mapError_eq_ok.1 rowsMade)] at mem
    obtain ⟨k, output, promise, beside, unblinds, stored, one⟩ := each p mem
    exact .change (.melt (later.replies replied) beside stored one) unblinds
  · rcases total.sub? changeTotal with _ | amount
    · exact .throw (refl y)
    · exact World.Within.bind (gains_askStore fun _ => rfl) (fun _ => .pure _) y

/-! ## Sending and receiving -/

theorem gains_exchange {settings : Settings} {selected : List (Proof S)} {amount : Amount}
    {status : ProofStatus} {ys : List S.Point} {store : Store S}
    (gained : Scene.Gains settings.verifyDleq x y)
    (reserved : y.wallet.store.reserve ys = .ok store) :
    world.recorded.Ends (splitInto settings status selected amount) (y.withStore store)
      (fun _ => Scene.Gains settings.verifyDleq x) fun _ z =>
        Scene.Gains settings.verifyDleq x (z.withStore (z.wallet.store.unreserve ys)) := by
  have aside : Scene.Gains settings.verifyDleq x (y.withStore store) :=
    IsTrans.trans _ _ _ gained (.of_stock rfl (Store.stock_reserve reserved))
  refine ((gains_splitInto settings status selected amount).since aside).mono (fun _ _ h => h)
    fun _ z later => ?_
  exact IsTrans.trans _ _ _ later (.of_stock rfl (Store.stock_unreserve ys))

theorem gains_splitToSend (settings : Settings) (available : List (Proof S)) (amount : Amount)
    (reserve : Bool) : world.recorded.Within (Scene.Gains settings.verifyDleq)
      (splitToSend settings available amount reserve) := by
  intro x
  refine ends_provide (I := Scene.Gains settings.verifyDleq x) (refl x)
    (Within.denominations settings x) (fun _ gained => gained) ?_ ?_
  · intro selected y _ _ _ _ gained
    split
    · exact fun ys store _ reserved =>
        IsTrans.trans _ _ _ gained (.of_stock rfl (Store.stock_reserve reserved))
    · exact gained
  · exact fun selected ys store y _ _ _ gained reserved => gains_exchange gained reserved

theorem gains_send (settings : Settings) (amount : Amount) (memo : Option String) :
    world.recorded.Within (Scene.Gains (S := S) settings.verifyDleq)
      (send settings amount memo) :=
  .bind (Registers.proofsIn _) fun available =>
    .bind (gains_splitToSend settings available amount true) fun _ => .lift _

theorem gains_redeem (settings : Settings) (proofs : List (Proof S)) :
    world.recorded.Within (Scene.Gains settings.verifyDleq) (redeem settings proofs) := by
  have exchange : world.recorded.Within (Scene.Gains settings.verifyDleq) (do
      let total ← Operation.totalOf proofs
      let parts ← split settings proofs total
      return parts.2) :=
    .bind (.lift _) fun total => .bind (gains_splitInto settings .unspent proofs total) fun _ =>
      .pure _
  refine fun x => .ite (fun _ => ?_) fun _ => exchange x
  exact World.Within.bind (registers_gains.checkDleqs proofs) (fun _ => exchange) x

theorem gains_receive (settings : Settings) (text : String) :
    world.recorded.Within (Scene.Gains (S := S) settings.verifyDleq) (receive settings text) := by
  refine .bind (.lift _) fun token => ?_
  rcases token.mints.find? (· ≠ settings.mintUrl) with _ | other
  · exact .bind (gains_redeem settings token.proofs) fun _ => .lift _
  · exact .throw _

/-! ## Commands -/

theorem gains_map {op : Operation S β} {f : β → α}
    (h : world.recorded.Within (Scene.Gains checked) op) :
    world.recorded.Within (Scene.Gains checked) (do return f (← op)) :=
  .bind h fun _ => .pure _

theorem gains_invalidate (proofs : List (Proof S)) (asked : Bool) :
    world.recorded.Within (Scene.Gains checked) (invalidate proofs asked) := by
  have archive (invalid : List (Proof S)) : world.recorded.Within (Scene.Gains checked) (do
      Operation.askStore (.markSpent (← Operation.ysOf invalid) none)
      return invalid) :=
    .bind (.lift _) fun ys => .bind (gains_markSpent ys none) fun _ => .pure _
  refine fun x => .ite (fun _ => ?_) fun _ => ?_
  · exact World.Within.bind (registers_gains.checkState proofs)
      (fun _ => .bind (.pure _) archive) x
  · exact World.Within.bind (.pure proofs) archive x

theorem gains_requestMint (amount : Amount) :
    world.recorded.Within (Scene.Gains (S := S) checked) (requestMint amount) := by
  unfold requestMint
  refine .guard (.bind (gains_ask _) fun quote => ?_)
  exact .bind (gains_askStore fun _ => rfl) fun _ => .pure _

theorem gains_operation {lightning : Lightning} {settings : Settings} {command : Command S}
    (other : ∀ proofs status mintId, command ≠ .add proofs status mintId) :
    world.recorded.Within (Scene.Gains settings.verifyDleq)
      (command.operation lightning settings) := by
  cases command with
  | «open» => exact gains_map registers_gains.open
  | info => exact gains_map (gains_ask _)
  | denominations => exact gains_map (.denominations settings)
  | fetchKeys => exact gains_map registers_gains.fetchKeys
  | fetchKeysOf id => exact gains_map (registers_gains.fetchKeysOf id)
  | fetchKeysetIds => exact gains_map registers_gains.fetchKeysetIds
  | cachedCurrent => exact gains_map .cachedCurrent
  | currentKeyset => exact gains_map registers_gains.currentKeyset
  | add proofs status mintId => exact absurd rfl (other proofs status mintId)
  | reserve ys => exact gains_map (gains_reserve ys)
  | unreserve proofs =>
    exact gains_map (.bind (.lift _) fun ys => gains_askStore fun _ => Store.stock_unreserve ys)
  | requestMint amount => exact gains_map (gains_requestMint amount)
  | mint amount parts invoiceId =>
    exact gains_map (gains_mintProofs settings amount parts invoiceId)
  | prepareSplit proofs amount =>
    refine gains_map fun x => (gains_prepareSplit settings proofs amount x).mono ?_ fun _ _ h => h
    exact fun _ _ h => h.1
  | split proofs amount => exact gains_map (gains_splitInto settings .unspent proofs amount)
  | splitToSend proofs amount reserved =>
    exact gains_map (gains_splitToSend settings proofs amount reserved)
  | send amount memo => exact gains_map (gains_send settings amount memo)
  | redeem proofs => exact gains_map (gains_redeem settings proofs)
  | receive token => exact gains_map (gains_receive settings token)
  | checkState proofs => exact gains_map (registers_gains.checkState proofs)
  | invalidate proofs asked => exact gains_map (gains_invalidate proofs asked)
  | payQuote request => exact gains_map (registers_gains.payQuote request)
  | pay proofs request reserve =>
    exact gains_map (gains_pay lightning settings proofs request reserve)
  | held states => exact gains_map (Registers.proofsIn states)

end World

end Wallet

end Chaumian
