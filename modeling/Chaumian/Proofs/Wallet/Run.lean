import Chaumian.Proofs.Proof
import Chaumian.Proofs.Scalars
import Chaumian.Lightning.Basic
import Chaumian.Wallet.Basic
import Chaumian.Wallet.Operation

/-!
# Operations at work

An operation of a wallet is a program, and what comes of it depends on the answers it is given. Here
the store and the memory of the wallet answer as they are defined, without interleaving, while the
mint is anything at all: a `World` is a mint with a state of its own that may answer every call with
any value or any error, and an unending source of new secrets and names.

`World.Ends` says how an operation ends when it is begun in some scene; the rules below take it
through an operation from one request to the next.
-/

namespace Chaumian.Wallet

/-- Operations are refused, and nothing changes, if they would claim what is claimed already. -/
theorem Memory.claim_cases {S : Suite} (m : Memory S) (ys : List S.Point) :
    (∃ y ∈ ys, y ∈ m.claimed) ∧ m.claim ys = (false, m) ∨
      (∀ y ∈ ys, y ∉ m.claimed) ∧ m.claim ys =
        (true, { m with operations := m.operations + 1, claimed := m.claimed ++ ys }) := by
  have taken : ys.any (m.claimed.contains ·) = true ↔ ∃ y ∈ ys, y ∈ m.claimed := by simp
  unfold Memory.claim
  by_cases refused : ∃ y ∈ ys, y ∈ m.claimed
  · exact .inl ⟨refused, if_pos (taken.2 refused)⟩
  · refine .inr ⟨fun y mem claimed => refused ⟨y, mem, claimed⟩, if_neg (mt taken.1 refused)⟩

/-- What a wallet has to do with: a mint, whatever it answers, and what is new each time. -/
structure World (S : Suite) (τ : Type) where
  answer : (call : MintCall S) → τ → Except (Error S) call.Result × τ
  draw : Nat → Secret × S.Scalar
  meltId : Nat → String

/-- A wallet and its mint, and how much of what is new has been used up. -/
structure Scene (S : Suite) (τ : Type) where
  wallet : Wallet S
  mint : τ
  drawn : Nat
  named : Nat

namespace Scene

variable {S : Suite} {τ : Type}

/-- A scene whose wallet has another store. -/
def withStore (x : Scene S τ) (store : Store S) : Scene S τ :=
  { x with wallet := { x.wallet with store } }

/-- A scene whose wallet remembers something else. -/
def withMemory (x : Scene S τ) (memory : Memory S) : Scene S τ :=
  { x with wallet := { x.wallet with memory } }

@[simp] theorem store_withStore (x : Scene S τ) (store : Store S) :
    (x.withStore store).wallet.store = store := rfl

end Scene

namespace World

variable {S : Suite} {τ ε α β : Type}

/-- The answer to a request, and what it changes. -/
def meet (world : World S τ) : (request : Request S) → Scene S τ → request.Answer × Scene S τ
  | .store call, x =>
    let (result, wallet) := x.wallet.callStore call
    (result, { x with wallet })
  | .memory call, x =>
    let (result, wallet) := x.wallet.callMemory call
    (result, { x with wallet })
  | .mint call, x =>
    let (result, mint) := world.answer call x.mint
    (result, { x with mint })
  | .fresh .draw, x => (world.draw x.drawn, { x with drawn := x.drawn + 1 })
  | .fresh .meltId, x => (world.meltId x.named, { x with named := x.named + 1 })

/-- The end of an operation that is begun in a scene. -/
def perform (world : World S τ) (op : ExceptT ε (Steps S) α) (x : Scene S τ) :
    Except ε α × Scene S τ :=
  Program.run world.meet op.run x

/-- Begun in the scene `x`, the operation either succeeds such that `Q` holds or fails such that
`E` does. -/
def Ends (world : World S τ) (op : ExceptT ε (Steps S) α) (x : Scene S τ)
    (Q : α → Scene S τ → Prop) (E : ε → Scene S τ → Prop) : Prop :=
  match world.perform op x with
  | (.ok a, y) => Q a y
  | (.error e, y) => E e y

section

variable {world : World S τ} {x y : Scene S τ} {Q Q' : α → Scene S τ → Prop}
  {E E' : ε → Scene S τ → Prop}

theorem perform_bind (op : ExceptT ε (Steps S) α) (f : α → ExceptT ε (Steps S) β) :
    world.perform (op >>= f) x =
      match world.perform op x with
      | (.ok a, y) => world.perform (f a) y
      | (.error e, y) => (.error e, y) := by
  show Program.run world.meet (Program.bind op.run _) x = _
  rw [Program.run_bind]
  unfold perform
  rcases Program.run world.meet op.run x with ⟨_ | _, _⟩ <;> rfl

theorem ends_iff {op : ExceptT ε (Steps S) α} :
    world.Ends op x Q E ↔
      (∀ a y, world.perform op x = (.ok a, y) → Q a y) ∧
        ∀ e y, world.perform op x = (.error e, y) → E e y := by
  unfold Ends
  rcases world.perform op x with ⟨e | a, y⟩
  · constructor
    · exact fun h => ⟨fun _ _ ran => (nomatch ran), fun _ _ ran => by cases ran; exact h⟩
    · exact fun h => h.2 e y rfl
  · constructor
    · exact fun h => ⟨fun _ _ ran => by cases ran; exact h, fun _ _ ran => (nomatch ran)⟩
    · exact fun h => h.1 a y rfl

theorem perform_of_isOk (world : World S τ) (op : ExceptT ε (Steps S) α) (x : Scene S τ)
    (h : (world.perform op x).1.isOk = true) :
    ∃ a, world.perform op x = (.ok a, (world.perform op x).2) := by
  rcases ran : world.perform op x with ⟨e | a, y⟩
  · rw [ran] at h
    cases h
  · exact ⟨a, rfl⟩

theorem perform_of_not_isOk (world : World S τ) (op : ExceptT ε (Steps S) α) (x : Scene S τ)
    (h : (world.perform op x).1.isOk = false) :
    ∃ e, world.perform op x = (.error e, (world.perform op x).2) := by
  rcases ran : world.perform op x with ⟨e | a, y⟩
  · exact ⟨e, rfl⟩
  · rw [ran] at h
    cases h

theorem Ends.ok {op : ExceptT ε (Steps S) α} {a : α} (h : world.Ends op x Q E)
    (ran : world.perform op x = (.ok a, y)) : Q a y :=
  (ends_iff.1 h).1 a y ran

theorem Ends.error {op : ExceptT ε (Steps S) α} {e : ε} (h : world.Ends op x Q E)
    (ran : world.perform op x = (.error e, y)) : E e y :=
  (ends_iff.1 h).2 e y ran

theorem Ends.of_perform {op : ExceptT ε (Steps S) α} {Q : Except ε α → Scene S τ → Prop}
    {outcome : Except ε α} (h : world.Ends op x (fun a => Q (.ok a)) fun e => Q (.error e))
    (ran : world.perform op x = (outcome, y)) : Q outcome y := by
  cases outcome with
  | ok a => exact h.ok ran
  | error e => exact h.error ran

/-- What an operation ends in however it ends is what performing it comes to. -/
theorem Ends.perform_eq {op : ExceptT ε (Steps S) α} {r : Except ε α × Scene S τ}
    (h : world.Ends op x (fun a y => (.ok a, y) = r) fun e y => (.error e, y) = r) :
    world.perform op x = r :=
  h.of_perform (Q := fun outcome y => (outcome, y) = r) rfl

theorem Ends.mono {op : ExceptT ε (Steps S) α} (h : world.Ends op x Q E)
    (ok : ∀ a y, Q a y → Q' a y) (error : ∀ e y, E e y → E' e y) : world.Ends op x Q' E' :=
  ends_iff.2 ⟨fun a y ran => ok a y (h.ok ran), fun e y ran => error e y (h.error ran)⟩

theorem Ends.and {op : ExceptT ε (Steps S) α} (h : world.Ends op x Q E)
    (h' : world.Ends op x Q' E') :
    world.Ends op x (fun a y => Q a y ∧ Q' a y) (fun e y => E e y ∧ E' e y) :=
  ends_iff.2 ⟨fun _ _ ran => ⟨h.ok ran, h'.ok ran⟩, fun _ _ ran => ⟨h.error ran, h'.error ran⟩⟩

/-! ## One rule for each way to go on -/

theorem Ends.pure {a : α} (h : Q a x) : world.Ends (Pure.pure a) x Q E := h

theorem Ends.throw {e : ε} (h : E e x) :
    world.Ends (MonadExcept.throw e : ExceptT ε (Steps S) α) x Q E := h

/-- The rest of an operation is begun where its first part ends. -/
theorem Ends.seq {op : ExceptT ε (Steps S) β} {f : β → ExceptT ε (Steps S) α}
    (h : world.Ends op x (fun b y => world.Ends (f b) y Q E) E) : world.Ends (op >>= f) x Q E := by
  rw [Ends, perform_bind]
  rcases ran : world.perform op x with ⟨e | b, y⟩
  · exact h.error ran
  · exact h.ok ran

theorem Ends.bind {op : ExceptT ε (Steps S) β} {f : β → ExceptT ε (Steps S) α}
    {R : β → Scene S τ → Prop} (h : world.Ends op x R E)
    (next : ∀ b y, R b y → world.Ends (f b) y Q E) : world.Ends (op >>= f) x Q E :=
  .seq (h.mono next fun _ _ failed => failed)

theorem Ends.map {op : ExceptT ε (Steps S) β} {f : β → α}
    (h : world.Ends op x (fun b => Q (f b)) E) :
    world.Ends (do return f (← op)) x Q E :=
  h.bind fun _ _ q => .pure q

theorem Ends.ite {c : Prop} [Decidable c] {op op' : ExceptT ε (Steps S) α}
    (yes : c → world.Ends op x Q E) (no : ¬c → world.Ends op' x Q E) :
    world.Ends (if c then op else op') x Q E := by
  split
  · exact yes ‹_›
  · exact no ‹_›

/-- Where a condition is checked first, it ends with the check or goes on. -/
theorem Ends.guard {c : Prop} [Decidable c] {e : ε} {next : PUnit → ExceptT ε (Steps S) α}
    (refused : c → E e x) (rest : ¬c → world.Ends (next ⟨⟩) x Q E) :
    world.Ends (if c then MonadExcept.throw e >>= next else next ⟨⟩) x Q E :=
  .ite (fun wrong => .seq (.throw (refused wrong))) rest

theorem Ends.done {r : Except ε α} (ok : ∀ a, r = .ok a → Q a x)
    (error : ∀ e, r = .error e → E e x) : world.Ends (ExceptT.mk (Pure.pure r)) x Q E := by
  cases r with
  | ok a => exact ok a rfl
  | error e => exact error e rfl

theorem Ends.tryCatch {op : ExceptT ε (Steps S) α} {handler : ε → ExceptT ε (Steps S) α}
    {F : ε → Scene S τ → Prop} (h : world.Ends op x Q F)
    (next : ∀ e y, F e y → world.Ends (handler e) y Q E) :
    world.Ends (MonadExcept.tryCatch op handler) x Q E := by
  have ran : world.perform (MonadExcept.tryCatch op handler) x =
      match world.perform op x with
      | (.ok a, y) => (.ok a, y)
      | (.error e, y) => world.perform (handler e) y := by
    show Program.run world.meet (Program.bind op.run _) x = _
    rw [Program.run_bind]
    unfold perform
    rcases Program.run world.meet op.run x with ⟨_ | _, _⟩ <;> rfl
  rw [Ends, ran]
  rcases ran : world.perform op x with ⟨e | a, y⟩
  · exact next e y (h.error ran)
  · exact h.ok ran

/-- An operation whose failure is an answer like any other. -/
theorem Ends.attempt {ε' : Type} {op : ExceptT ε' (Steps S) β} {Q : Except ε' β → Scene S τ → Prop}
    {E : ε → Scene S τ → Prop} (h : world.Ends op x (fun b => Q (.ok b)) fun e => Q (.error e)) :
    world.Ends (ExceptT.lift op.run) x Q E := by
  have ran : world.perform (ExceptT.lift op.run : ExceptT ε (Steps S) _) x =
      (.ok (world.perform op x).1, (world.perform op x).2) := by
    show Program.run world.meet (Program.bind op.run _) x = _
    rw [Program.run_bind]
    rfl
  rw [Ends, ran]
  rcases ran : world.perform op x with ⟨e | b, y⟩
  · exact h.error ran
  · exact h.ok ran

end

/-! ## One rule for each request -/

section

variable {world : World S τ} {x y : Scene S τ} {Q : α → Scene S τ → Prop}
  {E : Error S → Scene S τ → Prop}

theorem Ends.lift {r : Except (Error S) α} (ok : ∀ a, r = .ok a → Q a x)
    (error : ∀ e, r = .error e → E e x) : world.Ends (Operation.lift r) x Q E :=
  .done ok error

theorem Ends.known {r : Except (Error S) α} {a : α} (h : r = .ok a) (ok : Q a x) :
    world.Ends (Operation.lift r) x Q E := by
  rw [h]
  exact ok

theorem Ends.tryStore {call : StoreCall S}
    {Q : Except (Store.Error S) call.Result → Scene S τ → Prop}
    (h : Q (call.perform x.wallet.store).1
      (x.withStore (call.perform x.wallet.store).2)) :
    world.Ends (Operation.tryStore call) x Q E := h

theorem Ends.askStore {call : StoreCall S} {Q : call.Result → Scene S τ → Prop}
    (ok : ∀ result store, call.perform x.wallet.store = (.ok result, store) →
      Q result (x.withStore store))
    (error : ∀ e store, call.perform x.wallet.store = (.error e, store) →
      E (.store e) (x.withStore store)) :
    world.Ends (Operation.askStore call) x Q E := by
  refine .seq (.tryStore ?_)
  rcases h : call.perform x.wallet.store with ⟨e | result, store⟩
  · exact error e store h
  · exact ok result store h

theorem ends_update {added : List (ProofRow S)} {removed : List S.Point} {meltId : Option String}
    {Q : Unit → Scene S τ → Prop} {E : Error S → Scene S τ → Prop}
    (ok : ∀ store, x.wallet.store.update added removed meltId = .ok store →
      Q () (x.withStore store))
    (error : ∀ e, x.wallet.store.update added removed meltId = .error e → E (.store e) x) :
    world.Ends (Operation.askStore (.update added removed meltId)) x Q E := by
  refine .askStore (fun _ store called => ?_) fun e store called => ?_
  · rw [StoreCall.perform, StoreCall.commit.eq_def] at called
    split at called
    · cases called
      exact ok store ‹_›
    · cases called
  · rw [StoreCall.perform, StoreCall.commit.eq_def] at called
    split at called
    · cases called
    · cases called
      exact error e ‹_›

theorem Ends.askMint {call : MintCall S} {Q : call.Result → Scene S τ → Prop}
    (ok : ∀ result mint, world.answer call x.mint = (.ok result, mint) →
      Q result { x with mint })
    (error : ∀ e mint, world.answer call x.mint = (.error e, mint) → E e { x with mint }) :
    world.Ends (Operation.askMint call) x Q E := by
  have ran : world.perform (Operation.askMint call) x =
      ((world.answer call x.mint).1, { x with mint := (world.answer call x.mint).2 }) := rfl
  rw [Ends, ran]
  rcases h : world.answer call x.mint with ⟨e | result, mint⟩
  · exact error e mint h
  · exact ok result mint h

theorem Ends.askMemory {call : MemoryCall S} {Q : call.Result → Scene S τ → Prop}
    (h : Q (call.perform x.wallet.memory).1
      (x.withMemory (call.perform x.wallet.memory).2)) :
    world.Ends (Operation.askMemory call) x Q E := h

theorem Ends.freshMeltId {Q : String → Scene S τ → Prop}
    (h : Q (world.meltId x.named) { x with named := x.named + 1 }) :
    world.Ends (Operation.fresh .meltId) x Q E := h

/-- Proofs are claimed for as long as the operation on them is at work, whichever way it ends; they
cannot be if one of them is claimed already. -/
theorem Ends.claimed {ys : List S.Point} {body : Operation S α}
    (pending : (x.wallet.memory.claim ys).1 = false → E Operation.beingSpent x)
    (h : world.Ends body (x.withMemory (x.wallet.memory.claim ys).2)
      (fun a y => Q a (y.withMemory (y.wallet.memory.release ys)))
      (fun e y => E e (y.withMemory (y.wallet.memory.release ys)))) :
    world.Ends (Operation.claiming ys body) x Q E := by
  refine .seq (.askMemory (.ite (fun _ => ?_) fun refused => .throw ?_))
  · -- The outcome of the body is kept while what was claimed is released.
    have ran (y : Scene S τ) : world.perform (ExceptT.mk do
        let outcome ← body.run
        let _ ← (Operation.askMemory (.release ys)).run
        return outcome) y =
        ((world.perform body y).1, (world.perform body y).2.withMemory
          ((world.perform body y).2.wallet.memory.release ys)) := by
      show Program.run world.meet (Program.bind body.run _) y = _
      rw [Program.run_bind]
      rfl
    rw [Ends, ran]
    rcases done : world.perform body _ with ⟨e | a, y⟩
    · exact h.error done
    · exact h.ok done
  · have unchanged : (x.wallet.memory.claim ys).2 = x.wallet.memory := by
      obtain ⟨-, same⟩ | ⟨-, granted⟩ := x.wallet.memory.claim_cases ys
      · rw [same]
      · exact absurd (congrArg Prod.fst granted) refused
    show E _ (x.withMemory (x.wallet.memory.claim ys).2)
    rw [unchanged]
    exact pending (Bool.eq_false_iff.2 refused)

theorem Ends.claiming {ys : List S.Point} {body : Operation S α}
    (pending : E Operation.beingSpent x)
    (h : world.Ends body (x.withMemory (x.wallet.memory.claim ys).2)
      (fun a y => Q a (y.withMemory (y.wallet.memory.release ys)))
      (fun e y => E e (y.withMemory (y.wallet.memory.release ys)))) :
    world.Ends (Operation.claiming ys body) x Q E :=
  .claimed (fun _ => pending) h

end

/-! ## New outputs -/

section

variable {world : World S τ}

/-- The secret of a draw. -/
def secret (world : World S τ) (i : Nat) : Secret := (world.draw i).1

/-- What `items` are: made for the amounts in turn from what is drawn from the `n`-th draw on. -/
def Draws (world : World S τ) (id : KeysetId) (amounts : List Amount) (n : Nat)
    (items : List (PremintItem S)) : Prop :=
  List.Forall₂ (fun (amount, i) item =>
    PremintItem.make id amount (world.draw i).1 (world.draw i).2 = .ok item)
    (amounts.zipIdx n) items

section

variable {id : KeysetId} {amounts : List Amount} {n : Nat} {items : List (PremintItem S)}

theorem Draws.map_amount (h : world.Draws id amounts n items) : items.map (·.amount) = amounts := by
  have same := map_eq_of_forall₂ (f := Prod.fst) (g := PremintItem.amount) h
    fun (amount, i) item made => by
      rw [(PremintItem.make_eq_ok made).2]
      rfl
  rw [← same, List.zipIdx_map_fst]

theorem Draws.length (h : world.Draws id amounts n items) : items.length = amounts.length := by
  rw [← h.map_amount, List.length_map]

theorem Draws.map_secret (h : world.Draws id amounts n items) :
    items.map (·.secret) = (List.range' n items.length).map world.secret := by
  have same := map_eq_of_forall₂ (f := fun p => world.secret p.2) (g := PremintItem.secret) h
    fun (amount, i) item made => by
      rw [(PremintItem.make_eq_ok made).2]
      rfl
  rw [← same, h.length, ← List.zipIdx_map_snd n amounts, List.map_map]
  rfl

/-- The proofs of promises for them. -/
theorem Draws.made {outputs : Premint S} (h : world.Draws id amounts n outputs.items)
    {promises : List (Promise S)} {keys : Keys S} {checked : Bool} {proofs : List (Proof S)}
    (made : outputs.proofs promises keys checked = .ok proofs) :
    proofs.length = amounts.length ∧
      proofs.map (·.secret) = (List.range' n proofs.length).map world.secret := by
  have secrets := Premint.secrets_of_proofs made
  have length : proofs.length = outputs.items.length := by
    rw [← List.length_map (·.secret), secrets, Premint.length_secrets]
    rfl
  refine ⟨length.trans h.length, ?_⟩
  rw [secrets, length]
  exact h.map_secret

/-- Proofs that are made for the first of them. -/
theorem Draws.take {outputs : Premint S} (h : world.Draws id amounts n outputs.items)
    {proofs : List (Proof S)} (fits : proofs.length ≤ outputs.size)
    (secrets : proofs.map (·.secret) = outputs.secrets.take proofs.length) :
    proofs.length ≤ amounts.length ∧
      proofs.map (·.secret) = (List.range' n proofs.length).map world.secret := by
  have fits : proofs.length ≤ outputs.items.length := fits
  refine ⟨h.length ▸ fits, ?_⟩
  rw [secrets, Premint.secrets, h.map_secret, ← List.map_take, List.take_range'_of_length_ge fits]

/-- They are outputs under the keyset, and each hides its secret. -/
theorem Draws.own (h : world.Draws id amounts n items) {item : PremintItem S}
    (mem : item ∈ items) : item.output.keysetId = id ∧
      Blind.blind S item.secret.toBytes item.factor = .ok item.output.blinded := by
  obtain ⟨_, _, made⟩ := exists_of_mem_forall₂ h mem
  obtain ⟨hidden, same⟩ := PremintItem.make_eq_ok made
  rw [same]
  exact ⟨rfl, hidden⟩

end

theorem Ends.draw {x : Scene S τ} {Q : Secret × S.Scalar → Scene S τ → Prop}
    {E : ε → Scene S τ → Prop} (h : Q (world.draw x.drawn) { x with drawn := x.drawn + 1 }) :
    world.Ends (ExceptT.lift Operation.draw) x Q E := h

theorem ends_drawItems (id : KeysetId) (amounts : List Amount) (x : Scene S τ) :
    world.Ends (amounts.mapM fun amount => do
        let (secret, factor) ← (Operation.draw : Steps S _)
        (ExceptT.mk (pure (PremintItem.make id amount secret factor)) :
          ExceptT Blind.Error (Steps S) (PremintItem S))) x
      (fun items y => world.Draws id amounts x.drawn items ∧
        y = { x with drawn := x.drawn + amounts.length })
      (fun _ y => ∃ n, y = { x with drawn := x.drawn + n }) := by
  induction amounts generalizing x with
  | nil => exact .pure ⟨.nil, rfl⟩
  | cons amount rest ih =>
    rw [List.mapM_cons]
    refine .seq (.seq (.draw (.done (fun item made => ?_) fun e _ => ⟨1, rfl⟩)))
    refine .seq ((ih _).mono ?_ ?_)
    · rintro items y ⟨drawn, rfl⟩
      refine .pure ⟨.cons made ?_, ?_⟩
      · simpa [Draws, Nat.add_comm] using drawn
      · simp [Nat.add_assoc, Nat.add_comm 1]
    · rintro e y ⟨n, rfl⟩
      exact ⟨1 + n, by simp [Nat.add_assoc]⟩

/-- New outputs take one draw each, and nothing else is touched. -/
theorem ends_premint (id : KeysetId) (amounts : List Amount) (x : Scene S τ) :
    world.Ends (Operation.premint id amounts) x
      (fun p y => p.keysetId = id ∧ world.Draws id amounts x.drawn p.items ∧
        y = { x with drawn := x.drawn + amounts.length })
      (fun _ y => ∃ n, y = { x with drawn := x.drawn + n }) := by
  have generated : world.Ends (Premint.generate Operation.draw id amounts) x
      (fun p y => p.keysetId = id ∧ world.Draws id amounts x.drawn p.items ∧
        y = { x with drawn := x.drawn + amounts.length })
      (fun _ y => ∃ n, y = { x with drawn := x.drawn + n }) :=
    .seq ((ends_drawItems id amounts x).mono (fun _ _ drawn => .pure ⟨rfl, drawn⟩) fun _ _ h => h)
  refine .seq (.attempt (generated.mono ?_ ?_))
  · exact fun p y drawn => .pure drawn
  · exact fun e y drawn => .throw drawn

end

end World

end Chaumian.Wallet

namespace Chaumian.Sample

open Wallet

/-- Every text is taken for a payment request, and none can be issued. -/
def lightning : Lightning where
  paymentHash? text := some text
  issue _ _ _ := .error .notSigned

/-- A wallet that knows the current keyset and holds proofs of the given amounts with the secrets of
the first letters. -/
def wallet (amounts : List Nat) : Wallet suite where
  settings := .default
  store := ⟨[keyset], [keyset.id], [], amounts.zipIdx.map fun (amount, n) =>
    ⟨⟨proof amount n, point n, .unspent, none, none⟩, false⟩⟩
  memory := ⟨some keyset.id, 0, []⟩

/-- That wallet before a mint without a state, where nothing has been drawn. -/
def scene (amounts : List Nat) : Scene suite Unit := ⟨wallet amounts, (), 0, 0⟩

/-- A mint that takes every payment and signs one promise for it, of an amount of its own choice,
and refuses all else. The secrets that are drawn are the letters from the tenth on. -/
def generous (change : Nat) : World suite Unit where
  answer
    | .melt _, _ => (.ok ⟨true, none, [⟨.clamp change, keyset.id, scalar 9, none⟩]⟩, ())
    | _, _ => (.error .keysetNotFound, ())
  draw n := (secret (10 + n), scalar n)
  meltId n := s!"payment {n}"

end Chaumian.Sample
