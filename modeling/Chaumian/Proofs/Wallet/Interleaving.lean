import Chaumian.Proofs.Proof
import Chaumian.Proofs.Store
import Chaumian.Wallet.Task

/-!
# Operations that fall between each other

Any number of operations of any number of wallets are at work on one store. Each of their requests
is one indivisible step, and the steps of different operations follow each other in any order. The
mint answers anything at all. `Interleaved.Step` is the relation between what there is before and
after one step, and `Reaches` what it comes to after any number of them. An operation that begins
later than another one has just not taken a step.

To reason about such runs each operation is followed through `Stage`s, which say what others could
notice of it: what it has set aside, stored, drawn and claimed. `Obeys` says of the program of an
operation that it asks, whatever it is answered, only for what is `permitted` at its stage.
`Reaches.keeps` is the run lemma: what every permitted request keeps of the stages and of what is
shared holds after any number of steps.
-/

namespace Chaumian.Wallet

variable {S : Suite} {ι ω : Type} {α : ι → Type}

/-! ## Steps in any order -/

/-- The points of those secrets that have one. -/
def pointsOf (S : Suite) (secrets : List Secret) : List S.Point :=
  secrets.filterMap fun secret => S.hashToPoint? secret.toBytes

/-- What operations under way have in common, and what is known of each of them. -/
structure Shared (S : Suite) (ι ω : Type) where
  store : Store S
  /-- What each wallet remembers. -/
  memory : ω → Memory S
  /-- The proofs that each operation has claimed and not released. -/
  claims : ι → List (List S.Point)
  /-- The secrets that each has drawn. -/
  drawn : ι → List Secret
  /-- The calls of the store that have succeeded, and whose they were. -/
  journal : List (ι × StoreCall S)

namespace Shared

/-- Whether a secret is new: its point is neither in the store nor that of a secret drawn before. -/
def IsNew (x : Shared S ι ω) (secret : Secret) : Prop :=
  ∀ y ∈ pointsOf S [secret],
    y ∉ x.store.proofs.map (·.row.y) ∧ ∀ i, y ∉ pointsOf S (x.drawn i)

/-- What an update of the store archives for something new, and whose it is. -/
def exchange? : ι × StoreCall S → Option (ι × List S.Point)
  | (i, .update _ removed _) => some (i, removed)
  | _ => none

/-- What has been archived for something new, for each update of the store. -/
def exchanged (x : Shared S ι ω) : List (ι × List S.Point) := x.journal.filterMap exchange?

/-- Whether an operation has stored what it exchanged proofs for. -/
def HasStored (x : Shared S ι ω) (i : ι) : Prop := i ∈ x.exchanged.map (·.1)

end Shared

section

variable [DecidableEq ι] [DecidableEq ω]

/-- How a request of the operation `i` may be answered, and what it changes; `wallet` says whose the
operations are. -/
inductive Meets (wallet : ι → ω) (x : Shared S ι ω) (i : ι) :
    (request : Request S) → request.Answer → Shared S ι ω → Prop
  | store (call : StoreCall S) : Meets wallet x i (.store call) (call.perform x.store).1
      { x with
        store := (call.perform x.store).2
        journal :=
          if (call.perform x.store).1.isOk then x.journal ++ [(i, call)] else x.journal }
  | memory (call : MemoryCall S) :
      Meets wallet x i (.memory call) (call.perform (x.memory (wallet i))).1
      { x with
        memory := Function.update x.memory (wallet i) (call.perform (x.memory (wallet i))).2
        claims := Function.update x.claims i (Task.claimsAfter (x.claims i) (.memory call)
          (call.perform (x.memory (wallet i))).1) }
  | mint (call : MintCall S) (answer : Except (Error S) call.Result) :
      Meets wallet x i (.mint call) answer x
  | draw (secret : Secret) (factor : S.Scalar) (new : x.IsNew secret) :
      Meets wallet x i (.fresh .draw) (secret, factor)
      { x with drawn := Function.update x.drawn i (x.drawn i ++ [secret]) }
  | name (name : String) : Meets wallet x i (.fresh .meltId) name x

/-- Operations under way: what they share, and what each of them is still to do. -/
structure Interleaved (S : Suite) (ι ω : Type) (α : ι → Type) where
  shared : Shared S ι ω
  rest : (i : ι) → Steps S (Except (Error S) (α i))

namespace Interleaved

/-- Operations that are all about to begin. -/
def begin (store : Store S) (memory : ω → Memory S) (operations : (i : ι) → Operation S (α i)) :
    Interleaved S ι ω α :=
  ⟨⟨store, memory, fun _ => [], fun _ => [], []⟩, fun i => (operations i).run⟩

/-- Whether an operation is about to ask for something. -/
def Asks (x : Interleaved S ι ω α) (i : ι) (request : Request S) : Prop :=
  ∃ next, x.rest i = .ask request next

/-- Whether an operation has ended, and how. -/
def EndedWith (x : Interleaved S ι ω α) (i : ι) (outcome : Except (Error S) (α i)) : Prop :=
  x.rest i = .done outcome

/-- The operation `i` goes one step on. -/
def StepOf (wallet : ι → ω) (i : ι) (x y : Interleaved S ι ω α) : Prop :=
  ∃ request next answer, x.rest i = .ask request next ∧
    Meets wallet x.shared i request answer y.shared ∧
    y.rest = Function.update x.rest i (next answer)

/-- Some operation goes one step on. -/
def Step (wallet : ι → ω) (x y : Interleaved S ι ω α) : Prop := ∃ i, StepOf wallet i x y

/-- What it may come to in any number of steps. -/
abbrev Reaches (wallet : ι → ω) : Interleaved S ι ω α → Interleaved S ι ω α → Prop :=
  Relation.ReflTransGen (Step wallet)

/-- An operation that has ended takes no step. -/
theorem EndedWith.step {wallet : ι → ω} {x y : Interleaved S ι ω α} {i : ι}
    {outcome : Except (Error S) (α i)} (ended : x.EndedWith i outcome) (step : Step wallet x y) :
    y.EndedWith i outcome := by
  obtain ⟨j, request, next, answer, asks, -, rest⟩ := step
  have other : i ≠ j := by
    rintro rfl
    rw [EndedWith, asks] at ended
    cases ended
  rw [EndedWith, rest, Function.update_of_ne other]
  exact ended

theorem EndedWith.reaches {wallet : ι → ω} {x y : Interleaved S ι ω α} {i : ι}
    {outcome : Except (Error S) (α i)} (ended : x.EndedWith i outcome)
    (reached : Reaches wallet x y) : y.EndedWith i outcome := by
  induction reached with
  | refl => exact ended
  | tail _ step ih => exact ih.step step

end Interleaved

end

namespace Interleaved

/-- What an operation is about to ask for, if it has not ended. -/
def asks? (x : Interleaved S ι ω α) (i : ι) : Option (Request S) :=
  match x.rest i with
  | .done _ => none
  | .ask request _ => some request

theorem asks_iff {x : Interleaved S ι ω α} {i : ι} {request : Request S} :
    x.Asks i request ↔ x.asks? i = some request := by
  unfold Asks asks?
  cases x.rest i with
  | done outcome => exact ⟨fun ⟨_, same⟩ => (nomatch same), fun same => (nomatch same)⟩
  | ask other next =>
    constructor
    · rintro ⟨_, same⟩
      cases same
      rfl
    · intro same
      cases same
      exact ⟨next, rfl⟩

/-- How an operation has ended, if it has. -/
def outcome? (x : Interleaved S ι ω α) (i : ι) : Option (Except (Error S) (α i)) :=
  match x.rest i with
  | .done outcome => some outcome
  | .ask _ _ => none

theorem endedWith_iff {x : Interleaved S ι ω α} {i : ι} {outcome : Except (Error S) (α i)} :
    x.EndedWith i outcome ↔ x.outcome? i = some outcome := by
  unfold EndedWith outcome?
  cases x.rest i with
  | done other => exact ⟨fun same => by cases same; rfl, fun same => by cases same; rfl⟩
  | ask request next => exact ⟨fun same => (nomatch same), fun same => (nomatch same)⟩

end Interleaved

/-! ## Runs that are given turn by turn -/

/-- Whose turn it is, and what there is to answer if it asks the mint, or for something new. -/
structure Turn (S : Suite) (ι : Type) where
  who : ι
  mint : (call : MintCall S) → Except (Error S) call.Result
  secret : Secret
  factor : S.Scalar
  name : String

section

variable [DecidableEq ι] [DecidableEq ω] [Fintype ι]

instance (x : Shared S ι ω) (secret : Secret) : Decidable (x.IsNew secret) :=
  inferInstanceAs (Decidable (∀ y ∈ pointsOf S [secret],
    y ∉ x.store.proofs.map (·.row.y) ∧ ∀ i, y ∉ pointsOf S (x.drawn i)))

/-- What it comes to when an operation has its turn. One that has ended leaves everything as it is,
and so does one that would draw a secret that is not new. -/
def Interleaved.take (wallet : ι → ω) (x : Interleaved S ι ω α) (turn : Turn S ι) :
    Interleaved S ι ω α :=
  let i := turn.who
  match x.rest i with
  | .done _ => x
  | .ask (.store call) next =>
    let (answer, store) := call.perform x.shared.store
    let journal := if answer.isOk then x.shared.journal ++ [(i, call)] else x.shared.journal
    ⟨{ x.shared with store, journal }, Function.update x.rest i (next answer)⟩
  | .ask (.memory call) next =>
    let (answer, memory) := call.perform (x.shared.memory (wallet i))
    ⟨{ x.shared with
        memory := Function.update x.shared.memory (wallet i) memory
        claims := Function.update x.shared.claims i
          (Task.claimsAfter (x.shared.claims i) (.memory call) answer) },
      Function.update x.rest i (next answer)⟩
  | .ask (.mint call) next => ⟨x.shared, Function.update x.rest i (next (turn.mint call))⟩
  | .ask (.fresh .draw) next =>
    if x.shared.IsNew turn.secret then
      ⟨{ x.shared with
          drawn := Function.update x.shared.drawn i (x.shared.drawn i ++ [turn.secret]) },
        Function.update x.rest i (next (turn.secret, turn.factor))⟩
    else x
  | .ask (.fresh .meltId) next => ⟨x.shared, Function.update x.rest i (next turn.name)⟩

theorem Interleaved.stepOf_take (wallet : ι → ω) (x : Interleaved S ι ω α) (turn : Turn S ι) :
    x.take wallet turn = x ∨ StepOf wallet turn.who x (x.take wallet turn) := by
  unfold Interleaved.take
  dsimp only
  split
  · exact .inl rfl
  · rename_i call next asks
    exact .inr ⟨_, _, _, asks, .store call, rfl⟩
  · rename_i call next asks
    exact .inr ⟨_, _, _, asks, .memory call, rfl⟩
  · rename_i call next asks
    exact .inr ⟨_, _, _, asks, .mint call _, rfl⟩
  · rename_i next asks
    split
    · rename_i new
      exact .inr ⟨_, _, _, asks, .draw _ turn.factor new, rfl⟩
    · exact .inl rfl
  · rename_i next asks
    exact .inr ⟨_, _, _, asks, .name _, rfl⟩

theorem Interleaved.reaches_take (wallet : ι → ω) (x : Interleaved S ι ω α) (turn : Turn S ι) :
    Reaches wallet x (x.take wallet turn) := by
  obtain same | step := x.stepOf_take wallet turn
  · rw [same]
  · exact .single ⟨_, step⟩

/-- What it comes to after some turns. -/
def Interleaved.takeAll (wallet : ι → ω) (x : Interleaved S ι ω α) (turns : List (Turn S ι)) :
    Interleaved S ι ω α :=
  turns.foldl (·.take wallet ·) x

theorem Interleaved.reaches_takeAll (wallet : ι → ω) (turns : List (Turn S ι))
    (x : Interleaved S ι ω α) : Reaches wallet x (x.takeAll wallet turns) := by
  induction turns generalizing x with
  | nil => exact .refl
  | cons turn rest ih => exact (x.reaches_take wallet turn).trans (ih _)

end

/-! ## Stages -/

/-- How far an operation has come, as others could notice it. -/
structure Stage (S : Suite) where
  /-- The proofs that are set aside for it. -/
  aside : List S.Point
  /-- Whether it has stored what it exchanged proofs for. -/
  stored : Bool
  /-- The secrets that it has drawn. -/
  drawn : List Secret
  /-- The proofs that it has claimed and not released. -/
  claims : List (List S.Point)
  /-- Whether it was refused what it wanted to claim or to set aside. -/
  refused : Bool

namespace Stage

/-- An operation that has done nothing. -/
def start : Stage S := ⟨[], false, [], [], false⟩

/-- What is set aside after a request was answered: what was reserved until it is freed, and in the
end the proofs that were stored as reserved. -/
def asideAfter (aside : List S.Point) :
    (request : Request S) → request.Answer → List S.Point
  | .store (.reserve ys), .ok _ => ys
  | .store (.unreserve _), _ => []
  | .store (.update added _ _), .ok _ => (added.filter (·.status = .reserved)).map (·.y)
  | _, _ => aside

/-- Whether something has been stored after a request was answered. -/
def storedAfter (stored : Bool) : (request : Request S) → request.Answer → Bool
  | .store (.update ..), .ok _ => true
  | _, _ => stored

/-- The secrets drawn after a request was answered. -/
def drawnAfter (drawn : List Secret) : (request : Request S) → request.Answer → List Secret
  | .fresh .draw, pair => drawn ++ [pair.1]
  | _, _ => drawn

/-- Whether something has been refused after a request was answered. -/
def refusedAfter (refused : Bool) : (request : Request S) → request.Answer → Bool
  | .memory (.claim _), granted => refused || !granted
  | .store (.reserve _), .error (.notUnspent _) => true
  | _, _ => refused

/-- The stage after a request was answered. -/
def after (g : Stage S) (request : Request S) (answer : request.Answer) : Stage S where
  aside := asideAfter g.aside request answer
  stored := storedAfter g.stored request answer
  drawn := drawnAfter g.drawn request answer
  claims := Task.claimsAfter g.claims request answer
  refused := refusedAfter g.refused request answer

/-- What an operation may ask for. It sets proofs aside once, and frees just these when it has
claimed nothing and stored nothing. It claims proofs once, is not to try again, and releases just
these. Once it adds rows, all of them of secrets that it has drawn, and archives others. What it
claims and archives are the proofs that it has set aside, or else its `own` ones. -/
def Permits (own : Option (List S.Point)) (g : Stage S) : Request S → Prop
  | .store (.reserve _) => g.aside = [] ∧ g.stored = false
  | .store (.unreserve ys) => g.aside = ys ∧ g.claims = [] ∧ g.stored = false
  | .store (.update added removed _) => g.stored = false ∧ own.getD g.aside = removed ∧
      (∀ row ∈ added, row.status = .unspent ∨ row.status = .reserved) ∧
      (added.map (·.y)).Sublist (pointsOf S g.drawn)
  | .store (.markSpent _ _) => False
  | .memory (.claim ys) => g.claims = [] ∧ g.refused = false ∧ own.getD g.aside = ys
  | .memory (.release ys) => g.claims = [ys]
  | _ => True

end Stage

/-- What is known of answers beforehand: freeing proofs does not fail. -/
def Possible : (request : Request S) → request.Answer → Prop
  | .store (.unreserve _), answer => answer = .ok ()
  | _, _ => True

/-- From the stage `g` on the program asks only for what is permitted, and ends such that `Q` holds,
whatever it is answered. -/
def Obeys {β : Type} (own : Option (List S.Point)) (Q : β → Stage S → Prop) :
    Steps S β → Stage S → Prop
  | .done b, g => Q b g
  | .ask request next, g => g.Permits own request ∧
      ∀ answer, Possible request answer → Obeys own Q (next answer) (g.after request answer)

theorem Meets.possible [DecidableEq ι] [DecidableEq ω] {wallet : ι → ω} {x y : Shared S ι ω} {i : ι}
    {request : Request S} {answer : request.Answer} (met : Meets wallet x i request answer y) :
    Possible request answer := by
  cases met with
  | store call =>
    cases call with
    | unreserve ys => exact rfl
    | _ => exact trivial
  | _ => exact trivial

section

variable [DecidableEq ι] {own : ι → Option (List S.Point)}
  {Q : (i : ι) → Except (Error S) (α i) → Stage S → Prop} {x y : Interleaved S ι ω α}

/-- The operation whose turn it is asks for what is permitted, and all go on as they should. -/
theorem Interleaved.obeys_step {g : ι → Stage S}
    (obeys : ∀ i, Obeys (own i) (Q i) (x.rest i) (g i)) {i : ι} {request : Request S}
    {next : request.Answer → Steps S (Except (Error S) (α i))} (asks : x.rest i = .ask request next)
    {answer : request.Answer} (possible : Possible request answer)
    (rest : y.rest = Function.update x.rest i (next answer)) :
    (g i).Permits (own i) request ∧ ∀ j, Obeys (own j) (Q j) (y.rest j)
      (Function.update g i ((g i).after request answer) j) := by
  have mine := obeys i
  rw [asks] at mine
  obtain ⟨permitted, later⟩ := mine
  refine ⟨permitted, fun j => ?_⟩
  rw [rest]
  by_cases same : j = i
  · subst same
    rw [Function.update_self, Function.update_self]
    exact later answer possible
  · rw [Function.update_of_ne same, Function.update_of_ne same]
    exact obeys j

/-- What every permitted request keeps holds in the course of any run. -/
theorem Interleaved.Reaches.keeps [DecidableEq ω] {wallet : ι → ω} (reached : Reaches wallet x y)
    (own : ι → Option (List S.Point)) (Good : (ι → Stage S) → Shared S ι ω → Prop)
    (keeps : ∀ {g x i request answer y}, Good g x → (g i).Permits (own i) request →
      Meets wallet x i request answer y →
      Good (Function.update g i ((g i).after request answer)) y)
    (h : ∃ g, Good g x.shared ∧ ∀ i, Obeys (own i) (Q i) (x.rest i) (g i)) :
    ∃ g, Good g y.shared ∧ ∀ i, Obeys (own i) (Q i) (y.rest i) (g i) := by
  induction reached with
  | refl => exact h
  | tail _ step ih =>
    obtain ⟨g, good, obeys⟩ := ih
    obtain ⟨i, request, next, answer, asks, met, rest⟩ := step
    obtain ⟨permitted, later⟩ := obeys_step obeys asks met.possible rest
    exact ⟨_, keeps good permitted met, later⟩

end

/-! ## Following an operation through its requests -/

/-- Success such that `Q` holds, or failure such that `E` does. -/
def Stage.Ended {ε β : Type} (Q : β → Stage S → Prop) (E : ε → Stage S → Prop) :
    Except ε β → Stage S → Prop
  | .ok b => Q b
  | .error e => E e

/-- From the stage `g` on the operation asks only for what is permitted, and either succeeds such
that `Q` holds or fails such that `E` does. -/
def Stage.Ends {ε β : Type} (own : Option (List S.Point)) (g : Stage S)
    (op : ExceptT ε (Steps S) β) (Q : β → Stage S → Prop) (E : ε → Stage S → Prop) : Prop :=
  Obeys own (Stage.Ended Q E) op.run g

namespace Obeys

variable {β γ : Type} {own : Option (List S.Point)} {g : Stage S}

theorem mono {Q Q' : β → Stage S → Prop} {p : Steps S β} (h : Obeys own Q p g)
    (le : ∀ b g, Q b g → Q' b g) : Obeys own Q' p g := by
  induction p generalizing g with
  | done b => exact le b g h
  | ask request next ih => exact ⟨h.1, fun answer possible => ih answer (h.2 answer possible)⟩

theorem bind {Q : γ → Stage S → Prop} {p : Steps S β} {f : β → Steps S γ}
    (h : Obeys own (fun b g => Obeys own Q (f b) g) p g) :
    Obeys own Q (p.bind f) g := by
  induction p generalizing g with
  | done b => exact h
  | ask request next ih => exact ⟨h.1, fun answer possible => ih answer (h.2 answer possible)⟩

end Obeys

namespace Stage.Ends

variable {ε β γ : Type} {own : Option (List S.Point)} {g : Stage S} {Q Q' : β → Stage S → Prop}
  {E E' : ε → Stage S → Prop}

theorem mono {op : ExceptT ε (Steps S) β} (h : g.Ends own op Q E)
    (ok : ∀ b g, Q b g → Q' b g) (error : ∀ e g, E e g → E' e g) : g.Ends own op Q' E' := by
  refine Obeys.mono h fun outcome g ends => ?_
  cases outcome with
  | ok b => exact ok b g ends
  | error e => exact error e g ends

theorem pure {b : β} (h : Q b g) : g.Ends own (Pure.pure b) Q E := h

theorem throw {e : ε} (h : E e g) :
    g.Ends own (MonadExcept.throw e : ExceptT ε (Steps S) β) Q E := h

theorem done {r : Except ε β} (ok : ∀ b, r = .ok b → Q b g) (error : ∀ e, r = .error e → E e g) :
    g.Ends own (ExceptT.mk (Pure.pure r)) Q E := by
  cases r with
  | ok b => exact ok b rfl
  | error e => exact error e rfl

/-- The rest of an operation is begun at the stage where its first part ends. -/
theorem seq {op : ExceptT ε (Steps S) γ} {f : γ → ExceptT ε (Steps S) β}
    (h : g.Ends own op (fun c g => g.Ends own (f c) Q E) E) :
    g.Ends own (op >>= f) Q E := by
  refine Obeys.bind (Obeys.mono h fun outcome g ends => ?_)
  cases outcome with
  | ok c => exact ends
  | error e => exact ends

theorem ite {c : Prop} [Decidable c] {op op' : ExceptT ε (Steps S) β}
    (yes : c → g.Ends own op Q E) (no : ¬c → g.Ends own op' Q E) :
    g.Ends own (if c then op else op') Q E := by
  split
  · exact yes ‹_›
  · exact no ‹_›

/-- Where a condition is checked first, it ends with the check or goes on. -/
theorem guard {c : Prop} [Decidable c] {e : ε} {next : PUnit → ExceptT ε (Steps S) β}
    (refused : E e g) (rest : ¬c → g.Ends own (next ⟨⟩) Q E) :
    g.Ends own (if c then MonadExcept.throw e >>= next else next ⟨⟩) Q E :=
  .ite (fun _ => .seq (.throw refused)) rest

theorem tryCatch {op : ExceptT ε (Steps S) β} {handler : ε → ExceptT ε (Steps S) β}
    {F : ε → Stage S → Prop} (h : g.Ends own op Q F)
    (next : ∀ e g, F e g → g.Ends own (handler e) Q E) :
    g.Ends own (MonadExcept.tryCatch op handler) Q E := by
  refine Obeys.bind (Obeys.mono h fun outcome g ends => ?_)
  cases outcome with
  | ok b => exact ends
  | error e => exact next e g ends

/-- An operation whose failure is an answer like any other. -/
theorem attempt {ε' : Type} {op : ExceptT ε' (Steps S) γ} {Q : Except ε' γ → Stage S → Prop}
    (h : g.Ends own op (fun c => Q (.ok c)) fun e => Q (.error e)) :
    g.Ends own (ExceptT.lift op.run : ExceptT ε (Steps S) _) Q E := by
  refine Obeys.bind (Obeys.mono h fun outcome g ends => ?_)
  cases outcome with
  | ok c => exact ends
  | error e => exact ends

end Stage.Ends

namespace Stage.Ends

variable {β γ : Type} {own : Option (List S.Point)} {g : Stage S} {Q : β → Stage S → Prop}
  {E : Error S → Stage S → Prop}

theorem lift {r : Except (Error S) β} (ok : ∀ b, r = .ok b → Q b g)
    (error : ∀ e, r = .error e → E e g) : g.Ends own (Operation.lift r) Q E :=
  .done ok error

theorem tryStore {call : StoreCall S} {Q : Except (Store.Error S) call.Result → Stage S → Prop}
    (permitted : g.Permits own (.store call))
    (next : ∀ answer, Possible (.store call) answer → Q answer (g.after (.store call) answer)) :
    g.Ends own (Operation.tryStore call) Q E :=
  ⟨permitted, next⟩

theorem askStore {call : StoreCall S} {Q : call.Result → Stage S → Prop}
    (permitted : g.Permits own (.store call))
    (ok : ∀ result, Possible (.store call) (.ok result) →
      Q result (g.after (.store call) (.ok result)))
    (error : ∀ e, Possible (.store call) (.error e) →
      E (.store e) (g.after (.store call) (.error e))) :
    g.Ends own (Operation.askStore call) Q E := by
  refine .seq (.tryStore permitted fun answer possible => ?_)
  cases answer with
  | ok result => exact ok result possible
  | error e => exact error e possible

theorem askMemory {call : MemoryCall S} {Q : call.Result → Stage S → Prop}
    (permitted : g.Permits own (.memory call))
    (next : ∀ answer, Q answer (g.after (.memory call) answer)) :
    g.Ends own (Operation.askMemory call) Q E :=
  ⟨permitted, fun answer _ => next answer⟩

theorem askMint {call : MintCall S} {Q : call.Result → Stage S → Prop}
    (ok : ∀ result, Q result g) (error : ∀ e, E e g) :
    g.Ends own (Operation.askMint call) Q E := by
  refine ⟨trivial, fun answer _ => ?_⟩
  cases answer with
  | ok result => exact ok result
  | error e => exact error e

theorem freshMeltId {Q : String → Stage S → Prop} (next : ∀ name, Q name g) :
    g.Ends own (Operation.fresh .meltId) Q E :=
  ⟨trivial, fun name _ => next name⟩

end Stage.Ends

end Chaumian.Wallet
