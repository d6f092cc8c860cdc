import Chaumian.Wallet.Basic
import Chaumian.Wallet.Connection
import Chaumian.Wallet.Task

/-!
Rehearsals: wallets at work with a mint that can be made to misbehave.

The wallets of a rehearsal share one mint. It is a mint that keeps the rules, or one that only has
keysets and else answers what it was told to. Stores can be made to fail, answers can be changed on
their way or held back, and an operation whose answer is held back waits until it is let go on or is
given up.
-/

namespace Chaumian

namespace Rehearsal

variable (S : Suite)

/-- An answer of the mint to a wallet. -/
abbrev Answer (e : Wallet.Endpoint) : Type := Except (Wallet.Error S) (e.Result S)

/-- What is new each time it is asked for: the n-th of its kind. -/
structure Supply where
  draw : Nat → Secret × S.Scalar
  meltId : Nat → String
  source : Nat → MintSource S

/-- The mint of a rehearsal. -/
inductive Counterpart where
  /-- A mint that keeps the rules. -/
  | honest (mint : Mint S)
  /-- A mint that has keysets, the current one last, and else answers once what it was told to. -/
  | scripted (keysets : List (Keyset S))
      (answers : (e : Wallet.Endpoint) → Option (Answer S e))

/-- When an answer is held back. -/
inductive Hold where
  /-- Before the mint has seen the call. -/
  | before
  /-- After the mint has answered. -/
  | after
  deriving DecidableEq, Repr

/-- An operation of a wallet that waits. -/
structure Waiting (α : Type) where
  wallet : String
  task : Wallet.Task S α
  /-- Whether the mint has not seen the call that it waits with. -/
  unseen : Bool

end Rehearsal

/-- The state of a rehearsal with operations that end with an `α`. -/
structure Rehearsal (S : Suite) (α : Type) where
  supply : Rehearsal.Supply S
  lightning : Lightning
  /-- What a scripted mint says that has not been told what to answer. -/
  unscripted : Wallet.Endpoint → Wallet.Error S
  /-- A wallet that comes to be at its first use. -/
  fresh : Wallet S
  mint : Rehearsal.Counterpart S
  wallets : List (String × Wallet S)
  /-- What calls of a wallet's store fail with. -/
  outage : (wallet : String) → Wallet.StoreCall S → Option String
  /-- How the next answer is changed on its way. -/
  faults : (e : Wallet.Endpoint) → Option (Rehearsal.Answer S e → Rehearsal.Answer S e)
  /-- Where the next call is held back. -/
  holds : Wallet.Endpoint → Option Rehearsal.Hold
  waiting : List (String × Rehearsal.Waiting S α)
  /-- The calls of the mint, the latest first. -/
  calls : List (Wallet.MintCall S)
  /-- How many secrets have been drawn, payments been named, and calls been met by the mint. -/
  drawn : Nat
  named : Nat
  served : Nat
  /-- Whether the operation at work is at a call that was held back before the mint saw it. -/
  unseen : Bool

namespace Rehearsal

variable {S : Suite} {α : Type}

/-- The state in which a rehearsal begins. -/
def start (supply : Supply S) (lightning : Lightning)
    (unscripted : Wallet.Endpoint → Wallet.Error S) (fresh : Wallet S) (mint : Counterpart S) :
    Rehearsal S α where
  supply := supply
  lightning := lightning
  unscripted := unscripted
  fresh := fresh
  mint := mint
  wallets := []
  outage _ _ := none
  faults _ := none
  holds _ := none
  waiting := []
  calls := []
  drawn := 0
  named := 0
  served := 0
  unseen := false

/-- A family with the member of one endpoint replaced. -/
def replace {F : Wallet.Endpoint → Type} (f : (e : Wallet.Endpoint) → F e)
    (e : Wallet.Endpoint) (x : F e) (e' : Wallet.Endpoint) : F e' :=
  if h : e = e' then h ▸ x else f e'

/-- The wallet of a name. -/
def wallet (r : Rehearsal S α) (name : String) : Wallet S :=
  (r.wallets.lookup name).getD r.fresh

/-- A rehearsal with the wallet of a name replaced. -/
def setWallet (r : Rehearsal S α) (name : String) (w : Wallet S) : Rehearsal S α :=
  { r with wallets := (name, w) :: r.wallets.filter (·.1 ≠ name) }

/-- Tells a scripted mint its keysets. -/
def setKeysets (r : Rehearsal S α) (keysets : List (Keyset S)) : Rehearsal S α :=
  match r.mint with
  | .honest _ => r
  | .scripted _ answers => { r with mint := .scripted keysets answers }

/-- Tells a scripted mint what to answer next. -/
def script (r : Rehearsal S α) (e : Wallet.Endpoint) (answer : Answer S e) : Rehearsal S α :=
  match r.mint with
  | .honest _ => r
  | .scripted keysets answers =>
    { r with mint := .scripted keysets (replace answers e (some answer)) }

/-- Has the next answer changed on its way. -/
def tamper (r : Rehearsal S α) (e : Wallet.Endpoint) (fault : Answer S e → Answer S e) :
    Rehearsal S α :=
  { r with faults := replace r.faults e (some fault) }

/-- Has the next call held back. -/
def holdBack (r : Rehearsal S α) (e : Wallet.Endpoint) (hold : Hold) : Rehearsal S α :=
  { r with holds := replace r.holds e (some hold) }

/-- Has some calls of a wallet's store fail, or succeed again if there is nothing to fail with. -/
def setOutage (r : Rehearsal S α) (name : String) (affected : Wallet.StoreCall S → Bool)
    (detail : Option String) : Rehearsal S α :=
  { r with outage := fun wallet call =>
      if wallet = name ∧ affected call then detail else r.outage wallet call }

end Rehearsal

end Chaumian
