import Chaumian.Lightning.Basic
import Chaumian.Wallet.Mint

/-!
Paying invoices with proofs.
-/

namespace Chaumian.Wallet

open Operation

variable {S : Suite}

/-- What a payment came to. -/
structure Payment (S : Suite) where
  /-- The name under which the proofs given are archived. -/
  id : String
  paid : Bool
  preimage : Option String
  /-- Proofs of what was left of the reserve for fees. -/
  change : List (Proof S)

/-- What paying an invoice costs with the reserve for fees, and that reserve. -/
def payQuote (request : String) : Operation S (Amount × Amount) := do
  let quote ← askMint (.meltQuote ⟨request⟩)
  let some total := quote.amount.add? quote.feeReserve | throw .amountTooLarge
  return (total, quote.feeReserve)

/-- The proofs of the change. The mint may sign it under another keyset than it was asked to, but
only under one. -/
def changeProofs (settings : Settings) (blank : Premint S) (promises : List (Promise S)) :
    Operation S (List (Proof S)) := do
  if promises.length > blank.size then
    throw (.malformedResponse
      s!"{promises.length} change signatures for {blank.size} outputs")
  match promises with
  | [] => return []
  | first :: _ =>
    if promises.any (·.keysetId ≠ first.keysetId) then
      throw (.malformedResponse "change signed under more than one keyset")
    let keys := (← fetchKeysOf first.keysetId).keys
    unblind (blank.take promises.length) promises keys settings.verifyDleq

/-- Pays an invoice with proofs, which are archived, and keeps the change. -/
def pay (lightning : Lightning) (settings : Settings) (proofs : List (Proof S))
    (request : String) (feeReserve : Amount) : Operation S (Payment S) := do
  if proofs = [] then throw .invalidAmount
  if Proof.hasRepeated proofs then throw beingSpent
  let some paymentHash := lightning.paymentHash? request | throw .invoice
  let total ← totalOf proofs
  let ys ← ysOf proofs
  claiming ys do
    let keyset ← currentKeyset
    let blank ← premint keyset.id (Premint.blankAmounts feeReserve)
    let id ← fresh .meltId
    let response ← askMint (.melt ⟨proofs, request, blank.outputs⟩)
    if !response.paid then throw .paymentFailed
    let change ← changeProofs settings blank response.change
    let changeTotal ← totalOf change
    askStore (.update (← rowsOf change .unspent none) ys (some id))
    let some amount := total.sub? changeTotal | throw .amountTooLarge
    askStore (.addInvoice
      ⟨id, paymentHash, request, amount, .outgoing, true, response.preimage⟩)
    return ⟨id, true, response.preimage, change⟩

end Chaumian.Wallet
