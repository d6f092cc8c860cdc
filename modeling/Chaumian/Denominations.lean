import Chaumian.Amount

/-!
The denominations of a mint: the powers of two up to some order, one key for each.

Every amount below `2 ^ order` is the sum of exactly one set of them, its binary digits.
-/

namespace Chaumian

/-- The denominations `2 ^ 0` to `2 ^ (order - 1)`. -/
structure Denominations where
  order : Nat
  le : order ≤ 64
  deriving DecidableEq

namespace Denominations

/-- The denominations below an order; there are at most 64. -/
def upTo (order : Nat) : Denominations := ⟨min order 64, by omega⟩

/-- All denominations there are. -/
def all : Denominations := upTo 64

/-- The denominations up to the largest of some amounts. -/
def covering (amounts : List Amount) : Denominations :=
  let largest := amounts.foldl (fun n a => max n a.toNat) 0
  upTo (if largest = 0 then 0 else largest.log2 + 1)

variable (d : Denominations)

/-- What every amount they make up is below. -/
def bound : Nat := Nat.pow 2 d.order

/-- The largest amount they make up. -/
def largest : Nat := d.bound - 1

/-- Whether an amount is one of the denominations. -/
def supports (a : Amount) : Bool := a.isPowerOfTwo ∧ a.toNat.log2 < d.order

/-- The denominations that make up an amount, smallest first. -/
def decompose (a : Amount) : Except Amount.Error (List Amount) :=
  if a.toNat > d.largest then .error .tooLarge
  else
    .ok <| (List.range d.order).filterMap fun order =>
      if a.toNat.testBit order then Amount.ofNat? (Nat.pow 2 order) else none

/-- Checks that parts add up to an amount and are denominations. -/
def checkSplit (a : Amount) (parts : List Amount) : Except Amount.Error Unit :=
  match Amount.sum parts with
  | .error _ => .error .wrongSplit
  | .ok total =>
    if total ≠ a then .error .wrongSplit
    else if parts.all d.supports then .ok ()
    else .error (.unsupported d.bound)

/-- The denominations for an amount: the parts asked for, or else those that make it up. -/
def plan (a : Amount) : (parts : Option (List Amount)) → Except Amount.Error (List Amount)
  | some parts => do
    d.checkSplit a parts
    return parts
  | none => d.decompose a

/-- Whether amounts are, in some order, the denominations that make up their sum. -/
def isCanonical (amounts : List Amount) : Bool :=
  match Amount.sum amounts with
  | .error _ => false
  | .ok total =>
    match d.decompose total with
    | .error _ => false
    | .ok parts => parts = amounts.mergeSort (·.toNat ≤ ·.toNat)

end Denominations

end Chaumian
