import Chaumian.Wallet.Operation

/-!
What a wallet holds, and what the mint says of it.
-/

namespace Chaumian.Wallet

open Operation

variable {S : Suite}

/-- The proofs in some states, smallest amount first. -/
def proofsIn (states : List ProofStatus) : Operation S (List (Proof S)) := do
  return Proof.sortByAmount ((← askStore (.heldIn (some states))).map (·.proof))

/-- All proofs that are held. -/
def heldProofs : Operation S (List (Proof S)) := proofsIn [.unspent, .reserved]

/-- The proofs that are free to be spent. -/
def unspentProofs : Operation S (List (Proof S)) := proofsIn [.unspent]

/-- The proofs that are set aside. -/
def reservedProofs : Operation S (List (Proof S)) := proofsIn [.reserved]

/-- The value of all proofs that are held. -/
def balance : Operation S Amount := do totalOf (← heldProofs)

/-- The value of the proofs that are free to be spent. -/
def availableBalance : Operation S Amount := do totalOf (← unspentProofs)

/-- The value of the proofs that are set aside. -/
def reservedBalance : Operation S Amount := do totalOf (← reservedProofs)

/-- The proofs that are archived. -/
def spentProofs : Operation S (List (ProofRow S)) := askStore .archive

/-- All invoices. -/
def invoices : Operation S (List Invoice) := askStore .invoices

/-- Frees those of some proofs that are set aside. -/
def unreserve (proofs : List (Proof S)) : Operation S Unit := do
  askStore (.unreserve (← ysOf proofs))

/-- States by point, of two for one point the later one. -/
def statesByPoint (states : List (ProofState S)) : List (ProofState S) :=
  states.foldl (fun found s => Store.put ProofState.y s found) []

/-- The states of some points in turn, each point's state being used once. -/
def takeStates : (ys : List S.Point) → (states : List (ProofState S)) →
    Except (Error S) (List (ProofState S))
  | [], _ => .ok []
  | y :: ys, states =>
    match states.find? (·.y = y) with
    | none => .error (.malformedResponse s!"no state for proof {Key.publicText S y}")
    | some s => do return s :: (← takeStates ys (states.filter (·.y ≠ y)))

/-- The mint's states of proofs, in the order of the proofs. -/
def checkState (proofs : List (Proof S)) : Operation S (List (ProofState S)) := do
  let ys ← ysOf proofs
  let response ← askMint (.checkState ⟨ys⟩)
  lift (takeStates ys (statesByPoint response.states))

/-- Archives proofs: those that the mint says are spent or, unchecked, all of them. Answers with the
ones that it archived. -/
def invalidate (proofs : List (Proof S)) (checked : Bool) : Operation S (List (Proof S)) := do
  let invalid ←
    if checked then
      let states ← checkState proofs
      pure (((proofs.zip states).filter fun (_, s) => s.isSpent).map (·.1))
    else pure proofs
  askStore (.markSpent (← ysOf invalid) none)
  return invalid

end Chaumian.Wallet
