import Chaumian.Wallet.Request
import Chaumian.Wallet.Settings

/-!
A wallet: its settings, its store, and what it remembers between calls.
-/

namespace Chaumian

/-- A wallet. -/
structure Wallet (S : Suite) where
  settings : Settings
  store : Store S
  memory : Wallet.Memory S

namespace Wallet

variable {S : Suite}

/-- A wallet over a store, which has done nothing yet. -/
def ofStore (settings : Settings) (store : Store S) : Wallet S := ⟨settings, store, .empty⟩

/-- The proofs that a wallet holds in some states, smallest amount first. -/
def held (w : Wallet S) (states : List ProofStatus) : List (Proof S) :=
  Proof.sortByAmount ((w.store.heldIn (some states)).map (·.proof))

/-- The value of the proofs that a wallet holds in some states. -/
def total (w : Wallet S) (states : List ProofStatus) : Except (Error S) Amount :=
  (Proof.total (w.held states)).mapError .ofAmount

/-- Calls the store of a wallet. -/
def callStore (call : StoreCall S) (w : Wallet S) :
    Except (Store.Error S) call.Result × Wallet S :=
  let (result, store) := call.perform w.store
  (result, { w with store })

/-- Uses the memory of a wallet. -/
def callMemory (call : MemoryCall S) (w : Wallet S) : call.Result × Wallet S :=
  let (result, memory) := call.perform w.memory
  (result, { w with memory })

end Wallet

end Chaumian
