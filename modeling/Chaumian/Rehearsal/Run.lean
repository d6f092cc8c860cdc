import Chaumian.Rehearsal.Basic
import Chaumian.Wallet.Command

/-!
How the requests of wallets are met in a rehearsal, and how operations run, wait, and go on.
-/

namespace Chaumian.Rehearsal

variable {S : Suite} {α : Type}

/-- A keyset, if the mint has it. -/
def found : Option (Keyset S) → Except (Wallet.Error S) (Keyset S)
  | some keyset => .ok keyset
  | none => .error .keysetNotFound

/-- The answer of the mint to a call that it sees. -/
def serve (r : Rehearsal S α) (call : Wallet.MintCall S) :
    Answer S call.endpoint × Rehearsal S α :=
  match r.mint with
  | .honest mint =>
    let (answer, mint) := mint.serve r.lightning (r.supply.source r.served) call
    (answer.mapError .ofRefusal, { r with mint := .honest mint, served := r.served + 1 })
  | .scripted keysets answers =>
    match call with
    | .keys => (found keysets.getLast?, r)
    | .keyset id => (found (keysets.find? (·.id = id)), r)
    | .keysets => (.ok ⟨keysets.map (·.id)⟩, r)
    | call =>
      match answers call.endpoint with
      | some answer =>
        (answer, { r with mint := .scripted keysets (replace answers call.endpoint none) })
      | none => (.error (r.unscripted call.endpoint), r)

/-- The answer to a call as it reaches the wallet. -/
def answer (r : Rehearsal S α) (call : Wallet.MintCall S) :
    Answer S call.endpoint × Rehearsal S α :=
  let (answer, served) := r.serve call
  match r.faults call.endpoint with
  | some fault => (fault answer, { served with faults := replace r.faults call.endpoint none })
  | none => (answer, served)

/-- Meets a call of the mint, unless it is held back. A call that was held back before the mint saw
it goes through when it is made again. -/
def meetCall (call : Wallet.MintCall S) (r : Rehearsal S α) :
    Wallet.Task.Reply (Answer S call.endpoint) × Rehearsal S α :=
  if r.unseen then
    let (answer, r) := { r with unseen := false }.answer call
    (.answer answer, r)
  else
    let r := { r with calls := call :: r.calls }
    let passed := { r with holds := replace r.holds call.endpoint none }
    match r.holds call.endpoint with
    | some .before => (.wait, { passed with unseen := true })
    | some .after =>
      let (answer, r) := passed.answer call
      (.withhold answer, r)
    | none =>
      let (answer, r) := r.answer call
      (.answer answer, r)

/-- Meets a request of a wallet. -/
def meet (name : String) : (request : Wallet.Request S) → Rehearsal S α →
    Wallet.Task.Reply request.Answer × Rehearsal S α
  | .store call, r =>
    match r.outage name call with
    | some detail => (.answer (.error (.unavailable detail)), r)
    | none =>
      let (result, w) := (r.wallet name).callStore call
      (.answer result, r.setWallet name w)
  | .memory call, r =>
    let (result, w) := (r.wallet name).callMemory call
    (.answer result, r.setWallet name w)
  | .fresh .draw, r => (.answer (r.supply.draw r.drawn), { r with drawn := r.drawn + 1 })
  | .fresh .meltId, r => (.answer (r.supply.meltId r.named), { r with named := r.named + 1 })
  | .mint call, r => meetCall call r

/-- Lets a wallet go on with an operation until that ends or waits, in which case it waits under
the name `register`. -/
def go (r : Rehearsal S α) (name : String) (task : Wallet.Task S α) (register : String) :
    Option α × Rehearsal S α :=
  match task.resume (meet name) r with
  | (.inl x, r) => (some x, r)
  | (.inr task, r) =>
    let waiting := (register, ⟨name, task, r.unseen⟩) :: r.waiting.filter (·.1 ≠ register)
    (none, { r with unseen := false, waiting })

/-- Begins an operation of a wallet. -/
def begin (r : Rehearsal S α) (name : String) (steps : Wallet.Steps S α) (register : String) :
    Option α × Rehearsal S α :=
  r.go name (.ofSteps steps) register

/-- What came of a command, or why nothing did. -/
abbrev Result (S : Suite) : Type := Except (Wallet.Error S) (Wallet.Outcome S)

/-- Tells a wallet to do something. -/
def tell (r : Rehearsal S (Result S)) (name : String) (command : Wallet.Command S)
    (register : String) : Option (Result S) × Rehearsal S (Result S) :=
  r.begin name (command.operation r.lightning (r.wallet name).settings).run register

/-- Takes an operation from those that wait. -/
def takeWaiting (r : Rehearsal S α) (register : String) :
    Option (Waiting S α) × Rehearsal S α :=
  (r.waiting.lookup register, { r with waiting := r.waiting.filter (·.1 ≠ register) })

/-- Lets an operation that waits go on, to wait under the name `next` if it has to wait again. -/
def resume (r : Rehearsal S α) (register next : String) : Option α × Rehearsal S α :=
  match r.takeWaiting register with
  | (some w, r) => { r with unseen := w.unseen }.go w.wallet w.task next
  | (none, r) => (none, r)

/-- Gives an operation that waits up. -/
def giveUp (r : Rehearsal S α) (register : String) : Rehearsal S α :=
  match r.takeWaiting register with
  | (some waiting, r) =>
    let w := r.wallet waiting.wallet
    r.setWallet waiting.wallet { w with memory := waiting.task.giveUp w.memory }
  | (none, r) => r

end Chaumian.Rehearsal
