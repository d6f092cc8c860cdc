import Chaumian.Wallet.Mint

/-!
Exchanging proofs for new ones of the same value, in two parts: some to keep and some to send.
-/

namespace Chaumian.Wallet

open Operation

variable {S : Suite}

/-- A split that is ready to be sent to the mint. -/
structure PreparedSplit (S : Suite) where
  keep : Premint S
  send : Premint S
  /-- The proofs that are given. -/
  inputs : List (Proof S)

/-- The request to the mint: first the outputs to keep, then those to send. -/
def PreparedSplit.request (p : PreparedSplit S) : SplitRequest S :=
  ⟨p.inputs, p.keep.outputs ++ p.send.outputs⟩

/-- Prepares outputs for an amount to send and for what is left to keep. -/
def prepareSplit (settings : Settings) (proofs : List (Proof S)) (amount : Amount) :
    Operation S (PreparedSplit S) := do
  let keyset ← currentKeyset
  let d ← denominations settings
  let total ← totalOf proofs
  let some rest := total.sub? amount | throw .amountTooLarge
  let keep ← premintFor keyset.id d rest
  let send ← premintFor keyset.id d amount
  return ⟨keep, send, proofs⟩

/-- Exchanges proofs for some to keep and some, of the given amount, to send. The latter are stored
in a state of choice, in the same step in which the given proofs are archived. -/
def splitInto (settings : Settings) (sendStatus : ProofStatus) (proofs : List (Proof S))
    (amount : Amount) : Operation S (List (Proof S) × List (Proof S)) := do
  if amount = .zero then throw .invalidAmount
  if Proof.hasRepeated proofs then throw beingSpent
  if (← totalOf proofs) < amount then throw .amountTooLarge
  let ys ← ysOf proofs
  claiming ys do
    let prepared ← prepareSplit settings proofs amount
    let response ← askMint (.split prepared.request)
    lift (checkPromises response.promises (prepared.keep.amounts ++ prepared.send.amounts))
    let keys := (← fetchKeysOf prepared.keep.keysetId).keys
    let count := prepared.keep.size
    let keep ← unblind prepared.keep (response.promises.take count) keys settings.verifyDleq
    let send ← unblind prepared.send (response.promises.drop count) keys settings.verifyDleq
    let kept ← rowsOf keep .unspent none
    let sent ← rowsOf send sendStatus none
    askStore (.update (kept ++ sent) ys none)
    return (keep, send)

/-- Exchanges proofs for some to keep and some of the given amount, all of them free to be
spent. -/
def split (settings : Settings) (proofs : List (Proof S)) (amount : Amount) :
    Operation S (List (Proof S) × List (Proof S)) :=
  splitInto settings .unspent proofs amount

end Chaumian.Wallet
