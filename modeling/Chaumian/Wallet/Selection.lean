import Chaumian.Wallet.Error

/-!
Coin selection: which proofs to spend for an amount.

Where every amount is a power of two, the selection has the smallest value that covers the target,
and the fewest proofs of that value: an exact sum if there is one, else the smallest excess. Both
are found by going through the amounts from the largest on and taking as many proofs as fit.
-/

namespace Chaumian.Wallet

variable {S : Suite}

/-- Proofs of one amount. -/
structure Pile (S : Suite) where
  amount : Nat
  proofs : List (Proof S)

namespace Pile

/-- Piles, the largest amount first, with a proof put at the end of the pile of its amount. -/
def add (p : Proof S) : List (Pile S) → List (Pile S)
  | [] => [⟨p.amount.toNat, [p]⟩]
  | pile :: rest =>
    if pile.amount = p.amount.toNat then { pile with proofs := pile.proofs ++ [p] } :: rest
    else if pile.amount < p.amount.toNat then ⟨p.amount.toNat, [p]⟩ :: pile :: rest
    else pile :: add p rest

/-- The piles of proofs, the largest amount first; proofs of nothing are left out. -/
def ofProofs (proofs : List (Proof S)) : List (Pile S) :=
  (proofs.filter (·.amount.toNat ≠ 0)).foldl (fun piles p => add p piles) []

/-- The number of proofs of a pile that fit an amount. -/
def fitting (pile : Pile S) (n : Nat) : Nat := min pile.proofs.length (n / pile.amount)

end Pile

/-- The smaller of two numbers, of which one may be missing. -/
def smaller (best : Option Nat) (n : Nat) : Option Nat := some (best.elim n (min n))

/-- The value to select when `remaining` is still to be covered and `taken` is covered already:
both together if the piles can make up the remainder, else the smallest excess found, where each
pile with proofs left over offers one more of them. -/
def coveringTotal? : (piles : List (Pile S)) → (remaining taken : Nat) → (best : Option Nat) →
    Option Nat
  | [], _, _, best => best
  | pile :: rest, remaining, taken, best =>
    let take := pile.fitting remaining
    let best :=
      if take < pile.proofs.length then smaller best (taken + (take + 1) * pile.amount) else best
    let remaining := remaining - take * pile.amount
    let taken := taken + take * pile.amount
    if remaining = 0 then some taken else coveringTotal? rest remaining taken best

/-- Takes as many proofs as fit from each pile in turn: the proofs, and what they leave
uncovered. -/
def takeFitting : (piles : List (Pile S)) → (remaining : Nat) → List (Proof S) × Nat
  | [], remaining => ([], remaining)
  | pile :: rest, remaining =>
    let take := pile.fitting remaining
    let (selected, uncovered) := takeFitting rest (remaining - take * pile.amount)
    (pile.proofs.take take ++ selected, uncovered)

/-- Selects proofs that cover a target, smallest amount first. -/
def selectToCover (available : List (Proof S)) (target : Amount) :
    Except (Error S) (List (Proof S)) := do
  let total ← (Proof.total available).mapError .ofAmount
  if total < target then throw .insufficientBalance
  if target = .zero then return []
  let piles := Pile.ofProofs available
  match coveringTotal? piles target.toNat 0 none with
  | none => throw .insufficientBalance
  | some goal =>
    match takeFitting piles goal with
    | (selected, 0) => return Proof.sortByAmount selected
    | _ => throw .insufficientBalance

end Chaumian.Wallet
