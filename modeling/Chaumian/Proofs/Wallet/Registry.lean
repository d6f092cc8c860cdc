import Chaumian.Proofs.Store
import Chaumian.Proofs.Wallet.Run
import Chaumian.Wallet.Holdings
import Chaumian.Wallet.Melt
import Chaumian.Wallet.Receive

/-!
# Operations that only look things up

What a wallet does to know the keysets of its mint, and all that it does to read its store or to ask
the mint how things are, leads from a scene to another one `Within` any relation that a few steps
are within: remembering something, being told something, and taking a keyset into the store.

One such relation holds for any mint. The books of a wallet are all that its store has but keysets,
the proofs with their states and the invoices, and an operation is `Quiet` if these are as before
however the mint answers and however the operation ends.
-/

namespace Chaumian.Wallet

variable {S : Suite} {τ ε α β : Type}

/-- However the operation ends, the scene there is then stands in the relation to the one before. -/
def World.Within (world : World S τ) (R : Scene S τ → Scene S τ → Prop)
    (op : ExceptT ε (Steps S) α) : Prop :=
  ∀ x, world.Ends op x (fun _ y => R x y) fun _ y => R x y

namespace World.Within

variable {world : World S τ} {R : Scene S τ → Scene S τ → Prop}

theorem askMemory (remembered : ∀ (x : Scene S τ) memory, R x (x.withMemory memory))
    (call : MemoryCall S) : world.Within R (Operation.askMemory call) :=
  fun x => .askMemory (remembered x _)

variable [IsPreorder (Scene S τ) R]

theorem pure (a : α) : world.Within R (Pure.pure a : ExceptT ε (Steps S) α) :=
  fun x => .pure (refl x)

theorem throw (e : ε) : world.Within R (MonadExcept.throw e : ExceptT ε (Steps S) α) :=
  fun x => .throw (refl x)

theorem bind {op : ExceptT ε (Steps S) β} {f : β → ExceptT ε (Steps S) α}
    (first : world.Within R op) (next : ∀ b, world.Within R (f b)) : world.Within R (op >>= f) :=
  fun x => (first x).bind fun b y step =>
    (next b y).mono (fun _ _ => IsTrans.trans _ _ _ step) fun _ _ => IsTrans.trans _ _ _ step

/-- Where a condition is checked first, only what follows the check is left to be looked at. -/
theorem guard {c : Prop} [Decidable c] {e : ε} {next : PUnit → ExceptT ε (Steps S) α}
    (rest : world.Within R (next ⟨⟩)) :
    world.Within R (if c then MonadExcept.throw e >>= next else next ⟨⟩) :=
  fun x => .guard (fun _ => refl x) fun _ => rest x

theorem lift (r : Except (Error S) α) : world.Within R (Operation.lift r) :=
  fun x => .lift (fun _ _ => refl x) fun _ _ => refl x

/-- A call of the store that changes nothing. -/
theorem read {call : StoreCall S} (same : ∀ store, (call.perform store).2 = store) :
    world.Within R (Operation.askStore call) := by
  have still (x : Scene S τ) : x.withStore x.wallet.store = x := rfl
  refine fun x => .askStore (fun _ store called => ?_) fun _ store called => ?_
  · rw [← show _ = store from congrArg Prod.snd called, same, still]
    exact refl x
  · rw [← show _ = store from congrArg Prod.snd called, same, still]
    exact refl x

/-- If every request is met within a relation, so is everything that an operation does. -/
theorem of_meet (step : ∀ request (x : Scene S τ), R x (world.meet request x).2)
    (op : ExceptT ε (Steps S) α) : world.Within R op := by
  -- The program may go on differently for each answer, so the induction is over the program.
  have whole (p : Steps S (Except ε α)) (x : Scene S τ) : R x (p.run world.meet x).2 := by
    induction p generalizing x with
    | done outcome => exact refl x
    | ask request next ih => exact IsTrans.trans _ _ _ (step request x) (ih _ _)
  refine fun x => ends_iff.2 ⟨fun a y ran => ?_, fun e y ran => ?_⟩
  · rw [← show _ = y from congrArg Prod.snd ran]
    exact whole op.run x
  · rw [← show _ = y from congrArg Prod.snd ran]
    exact whole op.run x

end World.Within

/-- A first part within a relation. -/
theorem World.Ends.within {world : World S τ} {R : Scene S τ → Scene S τ → Prop} {x : Scene S τ}
    {op : Operation S β} {f : β → Operation S α} {Q : α → Scene S τ → Prop}
    {E : Error S → Scene S τ → Prop} (first : world.Within R op)
    (failed : ∀ e y, R x y → E e y) (next : ∀ b y, R x y → world.Ends (f b) y Q E) :
    world.Ends (op >>= f) x Q E :=
  .seq ((first x).mono next failed)

section

variable {world : World S τ} {R : Scene S τ → Scene S τ → Prop} [IsPreorder (Scene S τ) R]
  {x : Scene S τ}

/-- What follows a first part within a relation is looked at from where it is begun. -/
theorem World.Ends.onward {op : ExceptT ε (Steps S) β} {f : β → ExceptT ε (Steps S) α}
    {P : β → Scene S τ → Prop} (first : world.Ends op x P fun _ y => R x y)
    (step : ∀ b y, P b y → R x y)
    (next : ∀ b y, P b y → world.Ends (f b) y (fun _ z => R y z) fun _ z => R y z) :
    world.Ends (op >>= f) x (fun _ z => R x z) fun _ z => R x z :=
  first.bind fun b y here => (next b y here).mono
    (fun _ z later => IsTrans.trans x y z (step b y here) later)
    fun _ z later => IsTrans.trans x y z (step b y here) later

/-- What is within a relation is so since any scene from which it was begun within that. -/
theorem World.Within.since {op : ExceptT ε (Steps S) α} (h : world.Within R op) {y : Scene S τ}
    (before : R x y) : world.Ends op y (fun _ z => R x z) fun _ z => R x z :=
  (h y).mono (fun _ z later => IsTrans.trans x y z before later)
    fun _ z later => IsTrans.trans x y z before later

/-- Claiming proofs is only to remember something. -/
theorem World.Ends.claimingWithin (remembered : ∀ (x : Scene S τ) memory, R x (x.withMemory memory))
    {ys : List S.Point} {body : Operation S α}
    (h : ∀ memory, world.Ends body (x.withMemory memory) (fun _ y => R (x.withMemory memory) y)
      fun _ y => R (x.withMemory memory) y) :
    world.Ends (Operation.claiming ys body) x (fun _ y => R x y) fun _ y => R x y := by
  have released {memory memory' : Memory S} {y : Scene S τ} (later : R (x.withMemory memory) y) :
      R x (y.withMemory memory') :=
    IsTrans.trans _ _ _ (IsTrans.trans _ _ _ (remembered x memory) later) (remembered y memory')
  exact .claiming (refl x) ((h _).mono (fun _ _ later => released later) fun _ _ later =>
    released later)

end

/-! ## The registry of keysets -/

/-- The current keyset, as far as the wallet knows it. -/
def Scene.known (x : Scene S τ) : Option (Keyset S) :=
  x.wallet.memory.current.bind x.wallet.store.keyset?

/-- Whatever else has changed, it is known as before if that and the keysets are the same. -/
theorem Scene.known_of_keysets {x y : Scene S τ}
    (current : y.wallet.memory.current = x.wallet.memory.current)
    (keysets : y.wallet.store.keysets = x.wallet.store.keysets) : y.known = x.known := by
  unfold known Store.keyset?
  rw [current, keysets]

theorem Memory.current_claim (memory : Memory S) (ys : List S.Point) :
    (memory.claim ys).2.current = memory.current := by
  obtain ⟨-, same⟩ | ⟨-, same⟩ := memory.claim_cases ys
  all_goals rw [same]

theorem Scene.stored_of_known {x : Scene S τ} {k : Keyset S} (known : x.known = some k) :
    x.wallet.memory.current = some k.id ∧ x.wallet.store.keyset? k.id = some k := by
  obtain ⟨id, current, stored⟩ := Option.bind_eq_some_iff.1 known
  obtain rfl := Store.id_of_keyset? stored
  exact ⟨current, stored⟩

namespace World

variable {world : World S τ}

/-- The current keyset is looked up in the store, and nothing else is done for it. -/
theorem ends_cachedCurrent (x : Scene S τ) :
    world.Ends Wallet.cachedCurrent x (fun cached y => y = x ∧ cached = x.known)
      (fun _ _ => False) := by
  refine .seq (.askMemory ?_)
  dsimp only [MemoryCall.perform, Scene.known]
  cases x.wallet.memory.current with
  | none => exact .pure ⟨rfl, rfl⟩
  | some id =>
    refine .askStore (fun cached _ called => ?_) fun _ _ called => nomatch called
    cases called
    exact ⟨rfl, rfl⟩

/-- A keyset is shown to the store unless its identifier is not the one of its keys. -/
theorem ends_learn (k : Keyset S) (x : Scene S τ) :
    world.Ends (Operation.askStore (.addKeyset k)) x
      (fun _ y => k.verifies = true ∧ y = x.withStore (x.wallet.store.learn k))
      (fun _ y => k.verifies = false ∧ y = x) := by
  refine .askStore (fun _ store called => ?_) fun e store called => ?_
  · rw [StoreCall.perform, StoreCall.commit.eq_def] at called
    split at called
    · rename_i added
      cases called
      obtain ⟨verified, rfl⟩ := Store.addKeyset_eq_ok.1 added
      exact ⟨verified, rfl⟩
    · cases called
  · rw [StoreCall.perform, StoreCall.commit.eq_def] at called
    split at called
    · cases called
    · rename_i added
      cases called
      exact ⟨Store.addKeyset_eq_error added, rfl⟩

/-- A keyset that is stored is not asked for again. -/
theorem ends_fetchKeysOf_stored {x : Scene S τ} {id : KeysetId} {k : Keyset S}
    (stored : x.wallet.store.keyset? id = some k) :
    world.Ends (Wallet.fetchKeysOf id) x (fun k' y => k' = k ∧ y = x) (fun _ _ => False) := by
  refine .seq (.askStore (fun found store called => ?_) fun _ _ called => nomatch called)
  obtain ⟨found, same⟩ := Prod.mk.inj called
  cases found.symm.trans (congrArg Except.ok stored)
  cases same
  exact .pure ⟨rfl, rfl⟩

/-- Once the mint's current keyset was asked for, it is known, and stays stored under its name. -/
theorem ends_currentKeyset_known (x : Scene S τ) :
    world.Ends Wallet.currentKeyset x (fun _ y => ∃ k, y.known = some k) (fun _ _ => True) := by
  refine .seq ((ends_cachedCurrent x).mono ?_ fun _ _ h => h.elim)
  rintro cached _ ⟨rfl, known⟩
  cases cached with
  | some k => exact .pure ⟨k, known.symm⟩
  | none =>
    refine .seq (.askMint (fun k mint _ => ?_) fun _ _ _ => trivial)
    refine .guard (fun _ => trivial) fun _ => ?_
    refine .seq ((ends_learn k _).mono ?_ fun _ _ _ => trivial)
    rintro _ _ ⟨-, rfl⟩
    exact .seq (.askMemory (.pure (Option.isSome_iff_exists.1 (Store.isSome_keyset?_learn _ k))))

/-- The denominations are those of the current keyset if that is known. -/
theorem ends_denominations_known (settings : Settings) (x : Scene S τ) :
    world.Ends (Wallet.denominations settings) x
      (fun d y => y = x ∧ ∀ k, x.known = some k → d = k.keys.denominations) (fun _ _ => False) := by
  refine .seq ((ends_cachedCurrent x).mono ?_ fun _ _ h => h)
  rintro cached _ ⟨rfl, same⟩
  rw [← same]
  cases cached with
  | none => exact .pure ⟨rfl, nofun⟩
  | some k => exact .pure ⟨rfl, fun _ known => by cases known; rfl⟩

theorem ends_denominations (settings : Settings) (x : Scene S τ) :
    world.Ends (Wallet.denominations settings) x (fun _ y => y = x) (fun _ y => y = x) :=
  (ends_denominations_known settings x).mono (fun _ _ h => h.1) fun _ _ h => h.elim

theorem Within.cachedCurrent {R : Scene S τ → Scene S τ → Prop} [IsPreorder (Scene S τ) R] :
    world.Within R Wallet.cachedCurrent :=
  fun x => (ends_cachedCurrent x).mono (fun _ _ same => same.1 ▸ refl _) fun _ _ h => h.elim

theorem Within.denominations {R : Scene S τ → Scene S τ → Prop} [IsPreorder (Scene S τ) R]
    (settings : Settings) : world.Within R (Wallet.denominations settings) :=
  fun x => (ends_denominations settings x).mono (fun _ _ same => same ▸ refl _)
    fun _ _ same => same ▸ refl _

end World

/-- Calls that only tell something. -/
def MintCall.Tells : MintCall S → Prop
  | .quote _ | .mint _ | .split _ | .melt _ => False
  | _ => True

/-- The steps that looking things up is made of are within a relation. -/
structure World.Registers (world : World S τ) (R : Scene S τ → Scene S τ → Prop) : Prop where
  remembered : ∀ (x : Scene S τ) memory, R x (x.withMemory memory)
  told : ∀ call : MintCall S, call.Tells → world.Within R (Operation.askMint call)
  fetchKeys : world.Within R Wallet.fetchKeys
  fetchKeysOf : ∀ id, world.Within R (Wallet.fetchKeysOf id)

namespace World.Registers

variable {world : World S τ} {R : Scene S τ → Scene S τ → Prop} [IsPreorder (Scene S τ) R]

/-- So they are if all that is asked for and remembered is, and all that the store is shown. -/
theorem of_addKeyset (remembered : ∀ (x : Scene S τ) memory, R x (x.withMemory memory))
    (told : ∀ call : MintCall S, call.Tells → world.Within R (Operation.askMint call))
    (added : ∀ keyset, world.Within R (Operation.askStore (.addKeyset keyset))) :
    world.Registers R where
  remembered := remembered
  told := told
  fetchKeys := .bind (told .keys trivial) fun keyset => .guard <|
    .bind (added keyset) fun _ => .bind (.askMemory remembered (.setCurrent keyset.id)) fun _ =>
      .pure keyset
  fetchKeysOf id := by
    refine .bind (.read fun _ => rfl) fun known => ?_
    cases known with
    | some keyset => exact .pure keyset
    | none =>
      exact .bind (told (.keyset id) trivial) fun keyset => .guard <|
        .bind (added keyset) fun _ => .pure keyset

theorem fetchKeysetIds (h : world.Registers R) : world.Within R Wallet.fetchKeysetIds :=
  .bind (h.told .keysets trivial) fun _ =>
    .bind (.askMemory h.remembered _) fun _ => .pure _

theorem currentKeyset (h : world.Registers R) : world.Within R Wallet.currentKeyset := by
  refine .bind .cachedCurrent fun cached => ?_
  cases cached with
  | some keyset => exact .pure keyset
  | none => exact h.fetchKeys

theorem fetchAll (h : world.Registers R) (ids : List KeysetId) :
    world.Within R (Wallet.fetchAll ids) := by
  induction ids with
  | nil => exact .pure ()
  | cons id rest ih => exact .bind (h.fetchKeysOf id) fun _ => ih

theorem «open» (h : world.Registers R) : world.Within R Wallet.open :=
  .bind h.fetchKeys fun _ => .bind h.fetchKeysetIds h.fetchAll

theorem checkDleqs (h : world.Registers R) (proofs : List (Proof S)) :
    world.Within R (Wallet.checkDleqs proofs) := by
  induction proofs with
  | nil => exact .pure ()
  | cons p rest ih =>
    refine fun x => .ite (fun _ => ?_) fun _ => ih x
    refine World.Within.bind (h.fetchKeysOf p.keysetId) (fun keyset => ?_) x
    rcases keyset.keys.get? p.amount with _ | key
    · exact .throw _
    · exact .guard ih

/-! ## What only asks -/

theorem proofsIn (states : List ProofStatus) : world.Within R (Wallet.proofsIn (S := S) states) :=
  .bind (.read fun _ => rfl) fun _ => .pure _

theorem checkState (h : world.Registers R) (proofs : List (Proof S)) :
    world.Within R (Wallet.checkState proofs) :=
  .bind (.lift _) fun ys => .bind (h.told (.checkState ⟨ys⟩) trivial) fun _ => .lift _

theorem payQuote (h : world.Registers R) (request : String) :
    world.Within R (Wallet.payQuote request) := by
  refine .bind (h.told (.meltQuote ⟨request⟩) trivial) fun quote => ?_
  rcases quote.amount.add? quote.feeReserve with _ | total
  · exact .throw _
  · exact .pure _

end World.Registers

/-! ## Quiet operations -/

/-- From one scene to another one the books are the same, and nothing new has been asked for. -/
structure Scene.Undisturbed (x y : Scene S τ) : Prop where
  books : y.wallet.store.books = x.wallet.store.books
  drawn : y.drawn = x.drawn
  named : y.named = x.named

theorem Scene.Undisturbed.trans {x y z : Scene S τ} (first : x.Undisturbed y)
    (second : y.Undisturbed z) : x.Undisturbed z :=
  ⟨second.books.trans first.books, second.drawn.trans first.drawn, second.named.trans first.named⟩

instance : IsPreorder (Scene S τ) Scene.Undisturbed where
  refl _ := ⟨rfl, rfl, rfl⟩
  trans _ _ _ := Scene.Undisturbed.trans

/-- An operation that leaves the books as they are, however it ends. -/
abbrev World.Quiet (world : World S τ) (op : ExceptT ε (Steps S) α) : Prop :=
  world.Within Scene.Undisturbed op

namespace World.Quiet

variable {world : World S τ}

theorem askMint (call : MintCall S) : world.Quiet (Operation.askMint call) :=
  fun _ => .askMint (fun _ _ _ => ⟨rfl, rfl, rfl⟩) fun _ _ _ => ⟨rfl, rfl, rfl⟩

theorem addKeyset (keyset : Keyset S) : world.Quiet (Operation.askStore (.addKeyset keyset)) := by
  refine fun x => (ends_learn keyset x).mono ?_ ?_
  · rintro _ _ ⟨-, rfl⟩
    exact ⟨Store.books_learn _ _, rfl, rfl⟩
  · rintro _ _ ⟨-, rfl⟩
    exact refl _

/-- Whatever the mint answers, looking things up is quiet. -/
theorem registers : world.Registers Scene.Undisturbed :=
  .of_addKeyset (fun _ _ => ⟨rfl, rfl, rfl⟩) (fun call _ => askMint call) addKeyset

end World.Quiet

end Chaumian.Wallet
