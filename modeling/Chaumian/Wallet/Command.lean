import Chaumian.Wallet.Melt
import Chaumian.Wallet.Receive
import Chaumian.Wallet.Send

/-!
All that a wallet can be told to do, and what comes of it.
-/

namespace Chaumian.Wallet

/-- Something that a wallet is told to do. -/
inductive Command (S : Suite) where
  /-- To make the mint's keysets known. -/
  | «open»
  | info
  | denominations
  | fetchKeys
  | fetchKeysOf (id : KeysetId)
  | fetchKeysetIds
  | cachedCurrent
  | currentKeyset
  /-- To store proofs as they are. -/
  | add (proofs : List (Proof S)) (status : ProofStatus) (mintId : Option String)
  | reserve (ys : List S.Point)
  | unreserve (proofs : List (Proof S))
  | requestMint (amount : Amount)
  | mint (amount : Amount) (parts : Option (List Amount)) (invoiceId : String)
  | prepareSplit (proofs : List (Proof S)) (amount : Amount)
  | split (proofs : List (Proof S)) (amount : Amount)
  | splitToSend (proofs : List (Proof S)) (amount : Amount) (reserve : Bool)
  | send (amount : Amount) (memo : Option String)
  | redeem (proofs : List (Proof S))
  | receive (token : String)
  | checkState (proofs : List (Proof S))
  | invalidate (proofs : List (Proof S)) (checked : Bool)
  | payQuote (request : String)
  | pay (proofs : List (Proof S)) (request : String) (feeReserve : Amount)
  /-- To list the proofs in some states. -/
  | held (states : List ProofStatus)

/-- What comes of a command. -/
inductive Outcome (S : Suite) where
  | done
  | info (info : MintInfo S)
  | denominations (d : Denominations)
  | keyset (keyset : Keyset S)
  /-- The current keyset, if it is known. -/
  | cached (keyset : Option (Keyset S))
  | keysetIds (ids : List KeysetId)
  | invoice (invoice : Invoice)
  | prepared (split : PreparedSplit S)
  | proofs (proofs : List (Proof S))
  | parts (keep send : List (Proof S))
  | token (token : Token S)
  | states (states : List (ProofState S))
  | received (amount : Amount)
  | cost (total feeReserve : Amount)
  | payment (payment : Payment S)

/-- The proofs that come of a command, each list with the name of its part. -/
def Outcome.lists {S : Suite} : Outcome S → List (String × List (Proof S))
  | .proofs ps => [("", ps)]
  | .parts keep send => [(".keep", keep), (".send", send)]
  | .token t => [("", t.proofs)]
  | .payment p => [("", p.change)]
  | _ => []

namespace Command

open Operation

variable {S : Suite}

/-- The operation that a command is to a wallet with settings. -/
def operation (lightning : Lightning) (settings : Settings) :
    Command S → Operation S (Outcome S)
  | .open => do Wallet.open; return .done
  | .info => do return .info (← Wallet.info)
  | .denominations => do return .denominations (← Wallet.denominations settings)
  | .fetchKeys => do return .keyset (← Wallet.fetchKeys)
  | .fetchKeysOf id => do return .keyset (← Wallet.fetchKeysOf id)
  | .fetchKeysetIds => do return .keysetIds (← Wallet.fetchKeysetIds)
  | .cachedCurrent => do return .cached (← Wallet.cachedCurrent)
  | .currentKeyset => do return .keyset (← Wallet.currentKeyset)
  | .add proofs status mintId => do
    askStore (.update (← rowsOf proofs status mintId) [] none)
    return .done
  | .reserve ys => do askStore (.reserve ys); return .done
  | .unreserve proofs => do Wallet.unreserve proofs; return .done
  | .requestMint amount => do return .invoice (← Wallet.requestMint amount)
  | .mint amount parts invoiceId => do
    return .proofs (← mintProofs settings amount parts invoiceId)
  | .prepareSplit proofs amount => do
    return .prepared (← Wallet.prepareSplit settings proofs amount)
  | .split proofs amount => do
    let (kept, sent) ← Wallet.split settings proofs amount
    return .parts kept sent
  | .splitToSend proofs amount reserved => do
    let (kept, sent) ← Wallet.splitToSend settings proofs amount reserved
    return .parts kept sent
  | .send amount memo => do return .token (← Wallet.send settings amount memo)
  | .redeem proofs => do return .proofs (← Wallet.redeem settings proofs)
  | .receive token => do return .received (← Wallet.receive settings token)
  | .checkState proofs => do return .states (← Wallet.checkState proofs)
  | .invalidate proofs checked => do return .proofs (← Wallet.invalidate proofs checked)
  | .payQuote request => do
    let (total, feeReserve) ← Wallet.payQuote request
    return .cost total feeReserve
  | .pay proofs request feeReserve => do
    return .payment (← Wallet.pay lightning settings proofs request feeReserve)
  | .held states => do return .proofs (← proofsIn states)

end Command

end Chaumian.Wallet
