import Chaumian.Wallet.Operation

/-!
Operations that wait: one that is waiting for the mint can be let go on or be given up. The proofs
it has claimed stay claimed meanwhile, and are free again when it is given up.
-/

namespace Chaumian.Wallet

variable {S : Suite} {α σ : Type}

/-- An operation under way, and the proofs that it has claimed and not released. -/
structure Task (S : Suite) (α : Type) where
  rest : Steps S α
  claims : List (List S.Point)

namespace Task

/-- An operation that is about to begin. -/
def ofSteps (steps : Steps S α) : Task S α := ⟨steps, []⟩

/-- How a request is met. -/
inductive Reply (A : Type) where
  /-- It is answered. -/
  | answer (a : A)
  /-- It has to wait, and will be made again. -/
  | wait
  /-- It is answered, but the answer has to wait. -/
  | withhold (a : A)

/-- The claims after a request was answered. -/
def claimsAfter (claims : List (List S.Point)) :
    (request : Request S) → request.Answer → List (List S.Point)
  | .memory (.claim ys), granted => if granted then ys :: claims else claims
  | .memory (.release ys), _ => claims.erase ys
  | _, _ => claims

/-- Goes on until the operation ends or has to wait. -/
def advance (meet : (request : Request S) → σ → Reply request.Answer × σ) :
    Steps S α → List (List S.Point) → σ → (α ⊕ Task S α) × σ
  | .done x, _, s => (.inl x, s)
  | .ask request next, claims, s =>
    match meet request s with
    | (.answer a, s) => advance meet (next a) (claimsAfter claims request a) s
    | (.wait, s) => (.inr ⟨.ask request next, claims⟩, s)
    | (.withhold a, s) => (.inr ⟨next a, claimsAfter claims request a⟩, s)

/-- Lets an operation go on. -/
def resume (meet : (request : Request S) → σ → Reply request.Answer × σ) (task : Task S α)
    (s : σ) : (α ⊕ Task S α) × σ :=
  advance meet task.rest task.claims s

/-- The wallet's memory once an operation is given up. -/
def giveUp (task : Task S α) (m : Memory S) : Memory S :=
  task.claims.foldl (fun m ys => m.release ys) m

end Task

end Chaumian.Wallet
