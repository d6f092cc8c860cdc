import Chaumian.Wallet.Split

/-!
Proofs from someone else, exchanged for new ones that nobody else knows the secrets of.
-/

namespace Chaumian.Wallet

open Operation

variable {S : Suite}

/-- Checks the proofs of equality of those proofs that have one. -/
def checkDleqs : List (Proof S) → Operation S Unit
  | [] => return ()
  | p :: rest => do
    if p.dleq.isSome then
      let keyset ← fetchKeysOf p.keysetId
      let some key := keyset.keys.get? p.amount | throw .dleqNotVerified
      if !p.isSignedBy key then throw .dleqNotVerified
    checkDleqs rest

/-- Exchanges all of some proofs for new ones. -/
def redeem (settings : Settings) (proofs : List (Proof S)) : Operation S (List (Proof S)) := do
  if settings.verifyDleq then checkDleqs proofs
  let total ← totalOf proofs
  let (_, redeemed) ← split settings proofs total
  return redeemed

/-- Takes in the proofs of a token, which have to be of the wallet's mint, and answers with their
value. -/
def receive (settings : Settings) (text : String) : Operation S Amount := do
  let token ← lift ((Token.ofText S text).mapError .ofToken)
  if let some other := token.mints.find? (· ≠ settings.mintUrl) then
    throw (.wrongMint other.text)
  totalOf (← redeem settings token.proofs)

end Chaumian.Wallet
