import Chaumian.Premint
import Chaumian.Wallet.Request

/-!
Operations of a wallet: programs over its requests that may fail.
-/

namespace Chaumian.Wallet

variable {S : Suite}

/-- A program over the requests of a wallet. -/
abbrev Steps (S : Suite) : Type → Type := Program (Request S) Request.Answer

/-- A program over the requests of a wallet that may fail. -/
abbrev Operation (S : Suite) : Type → Type := ExceptT (Error S) (Steps S)

namespace Operation

/-- An operation that is done, or has failed, without asking for anything. -/
def lift (r : Except (Error S) α) : Operation S α := ExceptT.mk (.done r)

/-- The outcome of a call of the store. -/
def tryStore (call : StoreCall S) : Operation S (Except (Store.Error S) call.Result) :=
  ExceptT.mk (.ask (.store call) fun r => .done (.ok r))

/-- Calls the store. -/
def askStore (call : StoreCall S) : Operation S call.Result := do
  lift ((← tryStore call).mapError .store)

/-- Calls the mint. -/
def askMint (call : MintCall S) : Operation S call.Result :=
  ExceptT.mk (.ask (.mint call) fun r => .done r)

/-- Uses the wallet's memory. -/
def askMemory (call : MemoryCall S) : Operation S call.Result :=
  ExceptT.mk (.ask (.memory call) fun r => .done (.ok r))

/-- Asks for something new. -/
def fresh (call : FreshCall) : Operation S (call.Result S) :=
  ExceptT.mk (.ask (.fresh call) fun r => .done (.ok r))

/-- A new secret and blinding factor. -/
def draw : Steps S (Secret × S.Scalar) := .ask (.fresh .draw) .done

/-- What the mint says of proofs that are being spent, which the wallet says of them too. -/
def beingSpent : Error S := .pendingProofs "proofs already pending."

/-- An operation at work on proofs: it fails if another one is spending one of them, and however
it ends they are free again then. -/
def claiming (ys : List S.Point) (body : Operation S α) : Operation S α := do
  if ← askMemory (.claim ys) then
    ExceptT.mk do
      let outcome ← body.run
      let _ ← (askMemory (.release ys)).run
      return outcome
  else throw beingSpent

/-- The points of the secrets of proofs. -/
def ysOf (proofs : List (Proof S)) : Operation S (List S.Point) :=
  lift ((Proof.ys proofs).mapError .blind)

/-- The value of proofs. -/
def totalOf (proofs : List (Proof S)) : Operation S Amount :=
  lift ((Proof.total proofs).mapError .ofAmount)

/-- New outputs for amounts. -/
def premint (id : KeysetId) (amounts : List Amount) : Operation S (Premint S) := do
  match ← ExceptT.lift (Premint.generate draw id amounts).run with
  | .ok p => return p
  | .error e => throw (.blind e)

/-- New outputs for the denominations that make up an amount. -/
def premintFor (id : KeysetId) (d : Denominations) (amount : Amount) :
    Operation S (Premint S) := do
  premint id (← lift ((d.decompose amount).mapError .ofAmount))

/-- The proofs of promises for outputs. -/
def unblind (settled : Premint S) (promises : List (Promise S)) (keys : Keys S)
    (checked : Bool) : Operation S (List (Proof S)) :=
  lift ((settled.proofs promises keys checked).mapError .blind)

/-- The rows of proofs. -/
def rowsOf (proofs : List (Proof S)) (status : ProofStatus) (mintId : Option String) :
    Operation S (List (ProofRow S)) :=
  lift ((ProofRow.ofProofs proofs status mintId).mapError .blind)

end Operation

end Chaumian.Wallet
