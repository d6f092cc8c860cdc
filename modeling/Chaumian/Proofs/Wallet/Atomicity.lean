import Chaumian.Proofs.Wallet.Transfer
import Chaumian.Wallet.Command

/-!
# A command that fails leaves the books as they were

Of all that a wallet can be told to do, only paying an invoice can fail when the books have been
changed. Everything else has done nothing to the proofs with their states, the archive and the
invoices when it fails, whatever the mint has answered on the way.
-/

namespace Chaumian.Wallet

variable {S : Suite} {τ α β : Type} {world : World S τ}

namespace World

/-- Begun in the scene `x`, the operation leaves the books as they are if it fails. -/
def Atomic (world : World S τ) (op : Operation S α) (x : Scene S τ) : Prop :=
  world.Ends op x (fun _ _ => True) fun _ y => y.wallet.store.books = x.wallet.store.books

namespace Atomic

variable {x : Scene S τ}

theorem of_quiet {op : Operation S α} (h : world.Quiet op) : world.Atomic op x :=
  (h x).mono (fun _ _ _ => trivial) fun _ _ same => same.books

theorem of_ends {op : Operation S α} {Q : α → Scene S τ → Prop}
    (h : world.Ends op x Q fun _ y => y.wallet.store.books = x.wallet.store.books) :
    world.Atomic op x :=
  h.mono (fun _ _ _ => trivial) fun _ _ same => same

theorem map {op : Operation S β} {f : β → α} (h : world.Atomic op x) :
    world.Atomic (do return f (← op)) x :=
  Ends.map h

theorem quiet_bind {op : Operation S β} {f : β → Operation S α} (first : world.Quiet op)
    (next : ∀ b y, world.Atomic (f b) y) : world.Atomic (op >>= f) x :=
  .within first (fun _ _ same => same.books) fun b y same =>
    (next b y).mono (fun _ _ h => h) fun _ _ h => h.trans same.books

/-- A single call of the store does all it is asked to, or nothing. -/
theorem askStore (call : StoreCall S) : world.Atomic (Operation.askStore call) x := by
  refine Ends.askStore (fun _ _ _ => trivial) fun e store called => ?_
  have commit (r : Except (Store.Error S) (Store S))
      (h : StoreCall.commit x.wallet.store r = (.error e, store)) :
      store.books = x.wallet.store.books := by
    cases r <;> cases h
    rfl
  cases call <;> first | exact commit _ called | cases called

theorem update (proofs : List (Proof S)) (status : ProofStatus) (mintId : Option String) :
    world.Atomic (do
      Operation.askStore (.update (← Operation.rowsOf proofs status mintId) [] none)
      return Outcome.done (S := S)) x :=
  quiet_bind (.lift _) fun _ _ => (askStore _).map

theorem unreserve (proofs : List (Proof S)) : world.Atomic (Wallet.unreserve proofs) x :=
  quiet_bind (.lift _) fun _ _ => askStore _

theorem requestMint (amount : Amount) : world.Atomic (Wallet.requestMint (S := S) amount) x := by
  unfold Wallet.requestMint
  refine Ends.guard (fun _ => rfl) fun _ => ?_
  exact quiet_bind (Quiet.askMint _) fun _ _ => (askStore _).map

theorem invalidate (proofs : List (Proof S)) (checked : Bool) :
    world.Atomic (Wallet.invalidate proofs checked) x := by
  have archive (invalid : List (Proof S)) (y : Scene S τ) : world.Atomic (do
      Operation.askStore (.markSpent (← Operation.ysOf invalid) none)
      return invalid) y :=
    quiet_bind (.lift _) fun _ _ => (askStore _).map
  refine Ends.ite (fun _ => ?_) fun _ => ?_
  · exact quiet_bind (Quiet.registers.checkState proofs) fun _ y => quiet_bind (.pure _) archive
  · exact quiet_bind (.pure proofs) archive

end Atomic

end World

/-- A command that is not a payment leaves the books alone if it fails. -/
theorem atomic_operation {lightning : Lightning} {settings : Settings} {command : Command S}
    (unpaid : ∀ proofs request reserve, command ≠ .pay proofs request reserve) {x : Scene S τ}
    (keyed : x.wallet.store.Keyed) : world.Atomic (command.operation lightning settings) x := by
  cases command with
  | «open» => exact (World.Atomic.of_quiet World.Quiet.registers.open).map
  | info => exact (World.Atomic.of_quiet (World.Quiet.askMint _)).map
  | denominations => exact (World.Atomic.of_quiet (.denominations settings)).map
  | fetchKeys => exact (World.Atomic.of_quiet World.Quiet.registers.fetchKeys).map
  | fetchKeysOf id => exact (World.Atomic.of_quiet (World.Quiet.registers.fetchKeysOf id)).map
  | fetchKeysetIds => exact (World.Atomic.of_quiet World.Quiet.registers.fetchKeysetIds).map
  | cachedCurrent => exact (World.Atomic.of_quiet .cachedCurrent).map
  | currentKeyset => exact (World.Atomic.of_quiet World.Quiet.registers.currentKeyset).map
  | add proofs status mintId => exact .update proofs status mintId
  | reserve ys => exact (World.Atomic.askStore _).map
  | unreserve proofs => exact (World.Atomic.unreserve proofs).map
  | requestMint amount => exact (World.Atomic.requestMint amount).map
  | mint amount parts invoiceId =>
    exact (World.Atomic.of_ends (World.ends_mintProofs settings amount parts invoiceId x)).map
  | prepareSplit proofs amount =>
    exact (World.Atomic.of_ends (World.ends_prepareSplit settings proofs amount x)).map
  | split proofs amount =>
    exact (World.Atomic.of_ends (World.ends_splitInto settings .unspent proofs amount x)).map
  | splitToSend proofs amount reserved =>
    exact (World.Atomic.of_ends
      (World.ends_splitToSend settings proofs amount reserved x keyed)).map
  | send amount memo =>
    exact (World.Atomic.of_ends (World.ends_send settings amount memo x keyed)).map
  | redeem proofs => exact (World.Atomic.of_ends (World.ends_redeem settings proofs x)).map
  | receive token => exact (World.Atomic.of_ends (World.ends_receive settings token x)).map
  | checkState proofs => exact (World.Atomic.of_quiet (World.Quiet.registers.checkState proofs)).map
  | invalidate proofs checked => exact (World.Atomic.invalidate proofs checked).map
  | payQuote request => exact (World.Atomic.of_quiet (World.Quiet.registers.payQuote request)).map
  | pay proofs request reserve => exact absurd rfl (unpaid proofs request reserve)
  | held states => exact (World.Atomic.of_quiet (World.Registers.proofsIn states)).map

/-- A command that is not a payment leaves the proofs with their states, the archive and the
invoices as they were if it fails; the store may have come to know keysets, and nothing else. -/
theorem held_archive_invoices_of_failure {lightning : Lightning} {settings : Settings}
    {command : Command S} (unpaid : ∀ proofs request reserve, command ≠ .pay proofs request reserve)
    {x y : Scene S τ} (keyed : x.wallet.store.Keyed) {e : Error S}
    (failed : world.perform (command.operation lightning settings) x = (.error e, y)) :
    y.wallet.store.held = x.wallet.store.held ∧ y.wallet.store.archive = x.wallet.store.archive ∧
      y.wallet.store.invoices = x.wallet.store.invoices := by
  have same : y.wallet.store.books = x.wallet.store.books :=
    (atomic_operation unpaid keyed : world.Atomic (command.operation lightning settings) x).error
      failed
  exact ⟨Store.held_of_books same, Store.archive_of_books same, Store.invoices_of_books same⟩

end Chaumian.Wallet

namespace Chaumian.Sample

open Wallet

set_option maxRecDepth 4000

/-- A proof of 4 that was set aside to send 1 of it is free again when the mint refuses the
split. -/
theorem split_refused : ∃ e y, (generous 0).perform
      ((Command.splitToSend [proof 4 0] (.clamp 1) true).operation lightning .default)
      (scene [4, 8]) = (.error e, y) ∧
    y.wallet.store.held = (scene [4, 8]).wallet.store.held ∧
    y.wallet.store.archive = (scene [4, 8]).wallet.store.archive ∧
    y.wallet.store.invoices = (scene [4, 8]).wallet.store.invoices := by
  obtain ⟨e, failed⟩ := (generous 0).perform_of_not_isOk
    ((Command.splitToSend [proof 4 0] (.clamp 1) true).operation lightning .default)
    (scene [4, 8]) (by decide +kernel)
  have keyed : ((scene [4, 8]).wallet.store.held.map (·.y)).Nodup := by decide +kernel
  exact ⟨e, _, failed, held_archive_invoices_of_failure (by simp) keyed failed⟩

end Chaumian.Sample
