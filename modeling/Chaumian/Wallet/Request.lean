import Chaumian.Message.Exchange
import Chaumian.Message.Info
import Chaumian.Message.State
import Chaumian.Program
import Chaumian.Wallet.Error

/-!
What the operations of a wallet ask for: calls of the store and of the mint, the wallet's own state
in memory, and fresh secrets and names. Each of them is one indivisible step.
-/

namespace Chaumian.Wallet

/-- A call of the store. -/
inductive StoreCall (S : Suite) where
  | addKeyset (keyset : Keyset S)
  | keyset (id : KeysetId)
  | addInvoice (invoice : Invoice)
  | invoice (id : String)
  | invoices
  | update (added : List (ProofRow S)) (removed : List S.Point) (meltId : Option String)
  | heldIn (states : Option (List ProofStatus))
  | reserve (ys : List S.Point)
  | unreserve (ys : List S.Point)
  | markSpent (ys : List S.Point) (meltId : Option String)
  | archive

namespace StoreCall

variable {S : Suite}

/-- The name of what a call does. -/
def name : StoreCall S → String
  | addKeyset _ => "add_keyset"
  | keyset _ => "get_keyset"
  | addInvoice _ => "add_invoice"
  | invoice _ => "get_invoice"
  | invoices => "get_invoices"
  | update .. => "update_proofs"
  | heldIn _ => "get_proofs"
  | reserve _ => "reserve_proofs"
  | unreserve _ => "unreserve_proofs"
  | markSpent .. => "mark_spent"
  | archive => "get_spent_proofs"

/-- What a call answers with when it succeeds. -/
@[reducible] def Result : StoreCall S → Type
  | keyset _ => Option (Keyset S)
  | invoice _ => Option Invoice
  | invoices => List Invoice
  | heldIn _ => List (ProofRow S)
  | archive => List (ProofRow S)
  | _ => Unit

/-- A store after a change that may fail, in which case it is as before. -/
def commit (store : Store S) :
    Except (Store.Error S) (Store S) → Except (Store.Error S) Unit × Store S
  | .ok changed => (.ok (), changed)
  | .error e => (.error e, store)

/-- What a call does to a store. -/
def perform : (call : StoreCall S) → Store S → Except (Store.Error S) call.Result × Store S
  | addKeyset k, store => commit store (store.addKeyset k)
  | keyset id, store => (.ok (store.keyset? id), store)
  | addInvoice i, store => (.ok (), store.addInvoice i)
  | invoice id, store => (.ok (store.invoice? id), store)
  | invoices, store => (.ok store.invoices, store)
  | update added removed meltId, store => commit store (store.update added removed meltId)
  | heldIn states, store => (.ok (store.heldIn states), store)
  | reserve ys, store => commit store (store.reserve ys)
  | unreserve ys, store => (.ok (), store.unreserve ys)
  | markSpent ys meltId, store => commit store (store.markSpent ys meltId)
  | archive, store => (.ok store.archive, store)

end StoreCall

/-- What a mint can be asked for. -/
inductive Endpoint where
  /-- The current keyset. -/
  | keys
  /-- The keyset of an identifier. -/
  | keyset
  /-- The identifiers of all keysets, the current one last. -/
  | keysets
  | info
  | quote
  | mint
  | split
  | meltQuote
  | melt
  | checkState
  deriving DecidableEq, Repr

namespace Endpoint

/-- All of them, with their names. -/
def names : List (String × Endpoint) :=
  [("get_mint_keys", keys), ("get_mint_keyset", keyset), ("get_mint_keysets", keysets),
    ("get_mint_info", info), ("post_mint_quote", quote), ("post_mint", mint),
    ("post_split", split), ("post_melt_quote", meltQuote), ("post_melt", melt),
    ("post_check_state", checkState)]

/-- The name of an endpoint. -/
def name (e : Endpoint) : String := ((names.find? (·.2 = e)).map (·.1)).getD ""

/-- What is answered with when it succeeds. -/
@[reducible] def Result (S : Suite) : Endpoint → Type
  | keys => Keyset S
  | keyset => Keyset S
  | keysets => KeysetList
  | info => MintInfo S
  | quote => MintQuote
  | mint => MintResponse S
  | split => SplitResponse S
  | meltQuote => MeltQuote
  | melt => MeltResponse S
  | checkState => CheckStateResponse S

/-- How an answer is written. -/
def codec (S : Suite) : (e : Endpoint) → Json.Codec (e.Result S)
  | keys => Keyset.codec S
  | keyset => Keyset.codec S
  | keysets => KeysetList.codec
  | info => MintInfo.codec S
  | quote => MintQuote.codec
  | mint => MintResponse.codec S
  | split => SplitResponse.codec S
  | meltQuote => MeltQuote.codec
  | melt => MeltResponse.codec S
  | checkState => CheckStateResponse.codec S

end Endpoint

/-- A call of the mint. -/
inductive MintCall (S : Suite) where
  | keys
  | keyset (id : KeysetId)
  | keysets
  | info
  | quote (request : MintQuoteRequest)
  | mint (request : MintRequest S)
  | split (request : SplitRequest S)
  | meltQuote (request : MeltQuoteRequest)
  | melt (request : MeltRequest S)
  | checkState (request : CheckStateRequest S)

/-- What a call asks for. -/
@[reducible] def MintCall.endpoint {S : Suite} : MintCall S → Endpoint
  | keys => .keys
  | keyset _ => .keyset
  | keysets => .keysets
  | info => .info
  | quote _ => .quote
  | mint _ => .mint
  | split _ => .split
  | meltQuote _ => .meltQuote
  | melt _ => .melt
  | checkState _ => .checkState

/-- What a call of the mint answers with when it succeeds. -/
@[reducible] def MintCall.Result {S : Suite} (call : MintCall S) : Type :=
  call.endpoint.Result S

/-- What a wallet remembers between calls besides its store. -/
structure Memory (S : Suite) where
  /-- The mint's current keyset, once it is known. -/
  current : Option KeysetId
  /-- How many operations are at work. -/
  operations : Nat
  /-- The proofs that they spend. -/
  claimed : List S.Point

namespace Memory

variable {S : Suite}

/-- The memory of a wallet that has done nothing. -/
def empty : Memory S := ⟨none, 0, []⟩

/-- Begins an operation that spends proofs, unless one of them is being spent. -/
def claim (ys : List S.Point) (m : Memory S) : Bool × Memory S :=
  if ys.any (m.claimed.contains ·) then (false, m)
  else (true, { m with operations := m.operations + 1, claimed := m.claimed ++ ys })

/-- Ends an operation that spends proofs. -/
def release (ys : List S.Point) (m : Memory S) : Memory S :=
  { m with operations := m.operations - 1, claimed := m.claimed.filter (!ys.contains ·) }

/-- Forgets the current keyset unless it is the last one that the mint lists. -/
def retain (last : Option KeysetId) (m : Memory S) : Memory S :=
  if m.current = last then m else { m with current := none }

/-- Whether a wallet may be closed: not while it is at work. -/
def close (m : Memory S) : Except (Error S) Unit :=
  if m.operations > 0 then .error .operationInFlight else .ok ()

end Memory

/-- A use of the wallet's memory. -/
inductive MemoryCall (S : Suite) where
  | claim (ys : List S.Point)
  | release (ys : List S.Point)
  | current
  | setCurrent (id : KeysetId)
  | retain (last : Option KeysetId)

namespace MemoryCall

variable {S : Suite}

/-- What a use answers with. -/
@[reducible] def Result : MemoryCall S → Type
  | claim _ => Bool
  | current => Option KeysetId
  | _ => Unit

/-- What a use does to the memory. -/
def perform : (call : MemoryCall S) → Memory S → call.Result × Memory S
  | claim ys, m => m.claim ys
  | release ys, m => ((), m.release ys)
  | current, m => (m.current, m)
  | setCurrent id, m => ((), { m with current := some id })
  | retain last, m => ((), m.retain last)

end MemoryCall

/-- Something that is to be new each time. -/
inductive FreshCall where
  /-- A secret and a blinding factor. -/
  | draw
  /-- The name of a payment. -/
  | meltId
  deriving DecidableEq

/-- What is answered with. -/
@[reducible] def FreshCall.Result (S : Suite) : FreshCall → Type
  | draw => Secret × S.Scalar
  | meltId => String

/-- Anything that an operation asks for. -/
inductive Request (S : Suite) where
  | store (call : StoreCall S)
  | mint (call : MintCall S)
  | memory (call : MemoryCall S)
  | fresh (call : FreshCall)

/-- The answer to a request. -/
@[reducible] def Request.Answer {S : Suite} : Request S → Type
  | store call => Except (Store.Error S) call.Result
  | mint call => Except (Error S) call.Result
  | memory call => call.Result
  | fresh call => call.Result S

end Chaumian.Wallet
