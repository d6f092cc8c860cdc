import Chaumian.Wallet.Keysets

/-!
New proofs for paid invoices.
-/

namespace Chaumian.Wallet

open Operation

variable {S : Suite}

/-- Asks the mint for an invoice, which is kept as not settled. -/
def requestMint (amount : Amount) : Operation S Invoice := do
  if amount = .zero then throw .invalidAmount
  let quote ← askMint (.quote ⟨amount⟩)
  let invoice : Invoice :=
    ⟨quote.id, quote.paymentHash, quote.paymentRequest, amount, .incoming, false, none⟩
  askStore (.addInvoice invoice)
  return invoice

/-- Checks that there is a promise for every output, for its amount. -/
def checkPromises (promises : List (Promise S)) (expected : List Amount) :
    Except (Error S) Unit :=
  if promises.length ≠ expected.length then
    .error (.malformedResponse
      s!"expected {expected.length} signatures, got {promises.length}")
  else
    match (promises.zip expected).find? fun (p, a) => p.amount ≠ a with
    | some (p, a) =>
      .error (.malformedResponse
        s!"signature for {p.amount.toText} where {a.toText} was requested")
    | none => .ok ()

/-- Mints proofs for a paid invoice, in the parts asked for or else in the denominations that make
up the amount. Once the proofs are stored it succeeds, even if the invoice cannot be marked as
settled. -/
def mintProofs (settings : Settings) (amount : Amount) (parts : Option (List Amount))
    (invoiceId : String) : Operation S (List (Proof S)) := do
  if amount = .zero then throw .invalidAmount
  let some invoice ← askStore (.invoice invoiceId) | throw .unknownQuote
  let keyset ← currentKeyset
  let d ← denominations settings
  let amounts ← lift ((d.plan amount parts).mapError .ofAmount)
  claiming [] do
    let outputs ← premint keyset.id amounts
    let response ← askMint (.mint ⟨invoiceId, outputs.outputs⟩)
    lift (checkPromises response.promises outputs.amounts)
    let proofs ← unblind outputs response.promises keyset.keys settings.verifyDleq
    askStore (.update (← rowsOf proofs .unspent (some invoiceId)) [] none)
    let _ ← tryStore (.addInvoice { invoice with settled := true })
    return proofs

end Chaumian.Wallet
