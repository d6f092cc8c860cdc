import Chaumian.Rehearsal.Basic

/-!
Ways in which the answers of a mint can be changed before they reach the wallet.
-/

namespace Chaumian.Rehearsal

variable {S : Suite}

/-- A way to change a list of promises or of states, or to deny that a payment was made. -/
inductive Fault where
  | dropLast
  /-- The last one comes twice. -/
  | repeatLast
  | reverse
  | empty
  /-- No promise has a proof of equality. -/
  | stripDleq
  /-- The first signature is another point. -/
  | foreignSignature
  /-- The first signature is another point and has no proof of equality. -/
  | bareForeignSignature
  /-- The numbers of the first proof of equality are exchanged. -/
  | swapDleq
  /-- The first amount is doubled. -/
  | doubleAmount
  /-- The first amount is 3, which is no denomination. -/
  | oddAmount
  /-- The first promise is of an unknown keyset. -/
  | foreignKeyset
  /-- All promises are of an unknown keyset. -/
  | foreignKeysets
  | unpaid
  deriving DecidableEq, Repr

namespace Fault

/-- The names of faults. -/
def names : List (String × Fault) :=
  [("drop_last", dropLast), ("extra", repeatLast), ("reverse", reverse), ("empty", empty),
    ("strip_dleq", stripDleq), ("bad_c", foreignSignature), ("bad_c_strip", bareForeignSignature),
    ("swap_dleq", swapDleq), ("bad_amount", doubleAmount), ("odd_amount", oddAmount),
    ("bad_id", foreignKeyset), ("all_bad_id", foreignKeysets), ("unpaid", unpaid)]

/-- A list changed as far as that is a matter of its elements' places. -/
def rearrange (fault : Fault) (xs : List α) : List α :=
  match fault with
  | dropLast => xs.dropLast
  | repeatLast => xs ++ xs.getLast?.toList
  | reverse => xs.reverse
  | empty => []
  | _ => xs

/-- The identifier of no keyset. -/
def unknownKeyset : KeysetId := ⟨List.replicate 9 0, rfl⟩

/-- The multiple of the generator by the scalar whose 32 bytes are all 1, if there is such a
scalar. -/
def foreignPoint? (S : Suite) : Option S.Point :=
  (Scalar.ofNat? S.order (Bytes.toNat (List.replicate 32 1))).map S.base

/-- A promise with another signature. -/
def resign (p : Promise S) : Promise S :=
  { p with signature := (foreignPoint? S).getD p.signature }

/-- A promise changed. -/
def deface (fault : Fault) (p : Promise S) : Promise S :=
  match fault with
  | foreignSignature => resign p
  | bareForeignSignature => { resign p with dleq := none }
  | swapDleq => { p with dleq := p.dleq.map fun d => ⟨d.s, d.e⟩ }
  | doubleAmount => { p with amount := p.amount.saturatingAdd p.amount }
  | oddAmount => { p with amount := .clamp 3 }
  | foreignKeyset => { p with keysetId := unknownKeyset }
  | _ => p

/-- Promises changed. -/
def onPromises (fault : Fault) (ps : List (Promise S)) : List (Promise S) :=
  match fault with
  | stripDleq => ps.map fun p => { p with dleq := none }
  | foreignKeysets => ps.map fun p => { p with keysetId := unknownKeyset }
  | _ =>
    match fault.rearrange ps with
    | [] => []
    | p :: rest => fault.deface p :: rest

/-- An answer changed. -/
def onResult (fault : Fault) : (e : Wallet.Endpoint) → e.Result S → e.Result S
  | .mint, r => ⟨fault.onPromises r.promises⟩
  | .split, r => ⟨fault.onPromises r.promises⟩
  | .melt, r =>
    { r with paid := r.paid && fault ≠ unpaid, change := fault.onPromises r.change }
  | .checkState, r => ⟨fault.rearrange r.states⟩
  | _, r => r

end Fault

end Chaumian.Rehearsal
