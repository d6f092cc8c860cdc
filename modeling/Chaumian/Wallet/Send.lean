import Chaumian.Wallet.Holdings
import Chaumian.Wallet.Selection
import Chaumian.Wallet.Split

/-!
Proofs of an exact amount for someone else.
-/

namespace Chaumian.Wallet

open Operation

variable {S : Suite}

/-- Sets proofs aside; if one of them is not free any more, it counts as being spent. -/
def reserveOrPending (ys : List S.Point) : Operation S Unit := do
  match ← tryStore (.reserve ys) with
  | .ok () => return ()
  | .error (.notUnspent _) => throw beingSpent
  | .error e => throw (.store e)

/-- Proofs to keep and proofs of exactly an amount to send, out of those available. Proofs that make
up the amount in its own denominations are taken as they are, and set aside if asked for. Other
proofs are set aside first and then split; if that fails they are free again. -/
def splitToSend (settings : Settings) (available : List (Proof S)) (amount : Amount)
    (reserve : Bool) : Operation S (List (Proof S) × List (Proof S)) := do
  if amount = .zero then throw .invalidAmount
  let selected ← lift (selectToCover available amount)
  let total ← totalOf selected
  let fits ←
    if total > amount then pure false
    else pure ((← denominations settings).isCanonical (selected.map (·.amount)))
  if fits then
    if reserve then reserveOrPending (← ysOf selected)
    return ([], selected)
  let ys ← ysOf selected
  reserveOrPending ys
  let status := if reserve then ProofStatus.reserved else .unspent
  tryCatch (splitInto settings status selected amount) fun e => do
    askStore (.unreserve ys)
    throw e

/-- A token of an amount, out of the proofs that are free to be spent. Its proofs are set aside. -/
def send (settings : Settings) (amount : Amount) (memo : Option String) :
    Operation S (Token S) := do
  let available ← unspentProofs
  let (_, sent) ← splitToSend settings available amount true
  lift ((Token.ofProofs settings.mintUrl sent memo).mapError .ofToken)

end Chaumian.Wallet
