import Chaumian.Proofs.Denominations
import Chaumian.Proofs.Wallet.Calls
import Chaumian.Proofs.Wallet.Exchange
import Chaumian.Proofs.Wallet.Fresh
import Chaumian.Proofs.Wallet.Session

/-!
# Minting is exact

Whatever a mint answers, minting that succeeds comes to proofs of the parts that were asked for, in
their order, or else of the ascending denominations of the amount. The rows of these proofs stand
behind those that the store had, the invoice is settled, and nothing else is changed.

What is wrong with a request is found before the mint is asked for signatures (`minting_exact`): for
nothing, for an invoice that is not kept, or in parts that do not add up to the amount or are no
denominations of the keyset that the wallet takes for current, minting fails and no outputs are sent.
-/

namespace Chaumian.Wallet

variable {S : Suite} {τ : Type} {world : World S τ} {x y : Scene S τ}

/-- Why minting is refused by the wallet itself, which takes the keyset `known` for current. -/
inductive Unmintable (amount : Amount) (parts : Option (List Amount)) (invoiceId : String)
    (store : Store S) (known : Option (Keyset S)) : Prop
  | nothing (zero : amount = .zero)
  | unknown (missing : store.invoice? invoiceId = none)
  | unequal {split : List Amount} (asked : parts = some split)
    (differs : Amount.exactSum split ≠ amount.toNat)
  | unsupported {split : List Amount} {part : Amount} (asked : parts = some split)
    (mem : part ∈ split)
    (foreign : ∀ k, known = some k → ¬∃ n < k.keys.denominations.order, part.toNat = 2 ^ n)

namespace World

/-- What minting comes to: proofs of the planned amounts, whose rows are added unspent for the
invoice if what was drawn for them is new, and the settled invoice in place of what was kept. -/
structure MintedExactly (world : World S τ) (amount : Amount) (parts : Option (List Amount))
    (invoiceId : String) (x : Scene S τ) (proofs : List (Proof S)) (y : Scene S τ) : Prop where
  amounts : ∃ k, y.known = some k ∧
    (∀ split, parts = some split → proofs.map (·.amount) = split ∧
      Amount.exactSum split = amount.toNat ∧
      ∀ part ∈ split, ∃ n < k.keys.denominations.order, part.toNat = 2 ^ n) ∧
    (parts = none → k.keys.denominations.Ascending amount (proofs.map (·.amount)))
  secrets : proofs.map (·.secret) = (List.range' x.drawn proofs.length).map world.secret
  added : world.Fresh x.drawn y.drawn (knownPoints x.wallet.store []) →
    ∃ rows, ProofRow.ofProofs proofs .unspent (some invoiceId) = .ok rows ∧
      y.wallet.store.proofs = x.wallet.store.proofs ++ rows.map (⟨·, false⟩)
  settled : ∃ invoice, x.wallet.store.invoice? invoiceId = some invoice ∧
    y.wallet.store.invoice? invoiceId = some { invoice with settled := true } ∧
    y.wallet.store.invoices =
      Store.put Invoice.id { invoice with settled := true } x.wallet.store.invoices
  others : ∀ id ≠ invoiceId, y.wallet.store.invoice? id = x.wallet.store.invoice? id

variable {amount : Amount} {parts : Option (List Amount)} {invoiceId : String}
  {proofs : List (Proof S)}

theorem Minted.exactly (minted : world.Minted amount parts invoiceId x proofs y)
    (planned : Planned amount parts invoiceId x (proofs.map (·.amount)) y) :
    world.MintedExactly amount parts invoiceId x proofs y := by
  obtain ⟨invoice, rows, store, after, invoiced, made, books, updated, stored⟩ := minted.stored
  obtain rfl := Store.id_of_invoice? invoiced
  have invoices : after.invoices = x.wallet.store.invoices :=
    (Store.invoices_of_update updated).trans (Store.invoices_of_books books)
  have found (id : String) : y.wallet.store.invoice? id =
      if invoice.id = id then some { invoice with settled := true }
      else x.wallet.store.invoice? id := by
    rw [stored, Store.invoice?_addInvoice, Store.invoice?, invoices]
    rfl
  obtain ⟨k, known, plan⟩ := planned.known
  constructor
  case amounts =>
    refine ⟨k, known, fun split asked => ?_, fun unasked => ?_⟩
    · subst asked
      obtain ⟨same, total, supported⟩ := Denominations.plan_some_eq_ok.1 plan
      exact ⟨same, total, fun part mem => Denominations.supports_iff.1 (supported part mem)⟩
    · subst unasked
      exact Denominations.ascending_of_decompose plan
  case secrets => exact minted.secrets
  case added =>
    intro fresh
    have update := fresh.update (Nat.le_of_eq minted.drawn.symm) minted.secrets
      (ProofRow.ys_of_ofProofs made) books none
    obtain rfl : after = store.exchange rows [] none :=
      Except.ok.inj (updated.symm.trans update)
    refine ⟨rows, made, ?_⟩
    rw [stored, ← show store.proofs = x.wallet.store.proofs from congrArg Prod.fst books]
    exact Store.proofs_exchange_nil store rows none
  case settled =>
    refine ⟨invoice, invoiced, ?_, ?_⟩
    · rw [found, if_pos rfl]
    · rw [stored, ← invoices]
      rfl
  case others =>
    intro id other
    rw [found, if_neg other.symm]

/-- What has been planned was not to be refused. -/
theorem Planned.not_unmintable {amounts : List Amount}
    (planned : Planned amount parts invoiceId x amounts y) :
    ¬Unmintable amount parts invoiceId x.wallet.store y.known := by
  obtain ⟨k, known, plan⟩ := planned.known
  intro refused
  cases refused with
  | nothing zero => exact planned.positive zero
  | unknown missing =>
    obtain ⟨invoice, invoiced⟩ := planned.invoice
    cases missing.symm.trans invoiced
  | unequal asked differs =>
    subst asked
    exact differs (Denominations.plan_some_eq_ok.1 plan).2.1
  | unsupported asked mem foreign =>
    subst asked
    have supported := (Denominations.plan_some_eq_ok.1 plan).2.2
    exact foreign k known (Denominations.supports_iff.1 (supported _ mem))

/-- Minting ends without a call for signatures, or it has come as far as a plan. -/
theorem ends_mintProofs_sent (settings : Settings) (amount : Amount)
    (parts : Option (List Amount)) (invoiceId : String) (x : Scene S τ) :
    world.Ends (mintProofs settings amount parts invoiceId) x
      (fun proofs y => Planned amount parts invoiceId x (proofs.map (·.amount)) y)
      (fun _ y => (∀ call ∈ world.sent (mintProofs settings amount parts invoiceId) x, call.Tells) ∨
        ∃ amounts, Planned amount parts invoiceId x amounts y) := by
  refine ((ends_mintProofs_planned registers_told settings amount parts invoiceId
    (x.logging [])).sent).mono ?_ ?_
  · rintro proofs y ⟨-, positive, invoice, known⟩
    exact ⟨positive, invoice, known⟩
  · rintro e y ⟨-, told | ⟨amounts, positive, invoice, known⟩⟩
    · obtain ⟨calls, same, tell⟩ := told
      have same : world.sent (mintProofs settings amount parts invoiceId) x = calls := same
      exact .inl (same ▸ tell)
    · exact .inr ⟨amounts, positive, invoice, known⟩

end World

/-- **Minting is exact**, whatever the mint answers. If it succeeds, it comes to exactly the proofs
that were planned and the settled invoice. If the wallet has a reason not to ask for signatures, it
fails, and the mint has not been asked for any. -/
theorem minting_exact (settings : Settings) (amount : Amount) (parts : Option (List Amount))
    (invoiceId : String) (x : Scene S τ) {outcome : Except (Error S) (List (Proof S))}
    (ran : world.perform (mintProofs settings amount parts invoiceId) x = (outcome, y)) :
    (∀ proofs, outcome = .ok proofs →
      world.MintedExactly amount parts invoiceId x proofs y) ∧
    (Unmintable amount parts invoiceId x.wallet.store y.known →
      (∃ e, outcome = .error e) ∧
        ∀ request, .mint request ∉ world.sent (mintProofs settings amount parts invoiceId) x) := by
  have ends : world.Ends (mintProofs settings amount parts invoiceId) x _ _ :=
    World.ends_mintProofs_sent settings amount parts invoiceId x
  cases outcome with
  | ok proofs =>
    have minted := (World.ends_mintProofs settings amount parts invoiceId x).ok ran
    have planned := ends.ok ran
    refine ⟨fun _ same => ?_, fun refused => absurd refused planned.not_unmintable⟩
    cases same
    exact minted.exactly planned
  | error e =>
    refine ⟨fun _ same => (nomatch same), fun refused => ⟨⟨e, rfl⟩, fun request asked => ?_⟩⟩
    rcases ends.error ran with told | ⟨amounts, planned⟩
    · exact told _ asked
    · exact planned.not_unmintable refused

end Chaumian.Wallet

namespace Chaumian.Sample

open Wallet

/-- For the invoice of 3 proofs are asked for in some parts. -/
def mintingOf (parts : List Nat) :
    Except (Wallet.Error suite) (List (Proof suite)) × Scene suite (Mint suite × Nat) :=
  (supply.world clock).perform
    (mintProofs .default (.clamp 3) (some (parts.map Amount.clamp)) "quote 0") invoiced.2

set_option maxRecDepth 4000

/-- In parts of 2 and 1 they are minted, in this order, and stored for the invoice. In one part of 3
they are not, and the mint is not asked for them. -/
theorem minted_parts :
    (∃ proofs rows, (mintingOf [2, 1]).1 = .ok proofs ∧ proofs.map (·.amount.toNat) = [2, 1] ∧
      ProofRow.ofProofs proofs .unspent (some "quote 0") = .ok rows ∧
      (mintingOf [2, 1]).2.wallet.store.proofs = rows.map (⟨·, false⟩)) ∧
    (∃ e, (mintingOf [3]).1 = .error e) ∧
      ∀ request, .mint request ∉ (supply.world clock).sent
        (mintProofs .default (.clamp 3) (some [.clamp 3]) "quote 0") invoiced.2 := by
  constructor
  · have evaluated : (mintingOf [2, 1]).1.isOk ∧ invoiced.2.wallet.store.proofs = [] ∧
        ((supply.world clock).points invoiced.2.drawn (mintingOf [2, 1]).2.drawn).Nodup := by
      decide +kernel
    obtain ⟨passed, nothing, distinct⟩ := evaluated
    obtain ⟨proofs, ran⟩ := (supply.world clock).perform_of_isOk
      (mintProofs .default (.clamp 3) (some [.clamp 2, .clamp 1]) "quote 0") invoiced.2 passed
    have minted := (minting_exact .default (.clamp 3) _ "quote 0" invoiced.2 ran).1 proofs rfl
    obtain ⟨k, -, asked, -⟩ := minted.amounts
    have fresh : (supply.world clock).Fresh invoiced.2.drawn (mintingOf [2, 1]).2.drawn
        (World.knownPoints invoiced.2.wallet.store []) := by
      refine .of_points distinct fun y known => ?_
      rw [World.knownPoints, nothing] at known
      cases known
    obtain ⟨rows, made, added⟩ := minted.added fresh
    refine ⟨proofs, rows, congrArg Prod.fst ran, ?_, made, ?_⟩
    · have same := congrArg (List.map Amount.toNat) (asked _ rfl).1
      rw [List.map_map] at same
      exact same
    · rw [nothing, List.nil_append] at added
      exact added
  · have ran : (supply.world clock).perform
        (mintProofs .default (.clamp 3) (some [.clamp 3]) "quote 0") invoiced.2 =
          ((mintingOf [3]).1, (mintingOf [3]).2) := Prod.mk.eta.symm
    have refused := (minting_exact .default (.clamp 3) (some [.clamp 3]) "quote 0" invoiced.2 ran).2
    refine refused (.unsupported rfl List.mem_cons_self fun k _ => ?_)
    rintro ⟨n, -, power⟩
    have power : 3 = 2 ^ n := power
    cases n with
    | zero => cases power
    | succ n => omega

end Chaumian.Sample
