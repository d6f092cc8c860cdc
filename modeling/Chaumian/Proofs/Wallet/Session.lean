import Chaumian.Proofs.Mint.Conservation
import Chaumian.Proofs.Wallet.InStep

/-!
# Wallet and mint in the course of time

A wallet that begins with nothing is told to do one thing after the other before a mint of its own.
`in_step_of_run` says that the two agree after every command, as long as no secret and no name of a
quote is drawn twice: the wallet has archived exactly what the mint has taken, all that it holds is
signed by the mint and not taken, and its balance is what was issued to it less what it has paid.
-/

namespace Chaumian.Wallet

variable {S : Suite}

namespace Command

/-- The proofs that a command gives to the mint. -/
def given : Command S → List (Proof S)
  | split proofs _ | splitToSend proofs _ _ | redeem proofs | pay proofs _ _ => proofs
  | receive text =>
    match Token.ofText S text with
    | .ok token => token.proofs
    | .error _ => []
  | _ => []

/-- A command that is only about proofs that the wallet has rows of: it gives no others to the mint,
stores none as they are, and archives only what the mint says is spent. -/
def Allowed (store : Store S) : Command S → Prop
  | add .. => False
  | invalidate _ checked => checked = true
  | command => ∀ p ∈ command.given, store.Knows p

/-- What a command has paid to others when it has come to an end: the proofs given, less the
change. -/
def paid : Command S → Except (Error S) (Outcome S) → Int
  | pay proofs _ _, .ok (.payment p) => Proof.exactTotal proofs - Proof.exactTotal p.change
  | _, _ => 0

theorem paid_of_unpaid {command : Command S}
    (unpaid : ∀ proofs request reserve, command ≠ .pay proofs request reserve)
    (outcome : Except (Error S) (Outcome S)) : command.paid outcome = 0 := by
  cases command with
  | pay proofs request reserve => exact absurd rfl (unpaid proofs request reserve)
  | _ => rfl

end Command

/-- Commands and what came of them, the first one first. -/
abbrev Log (S : Suite) : Type := List (Command S × Except (Error S) (Outcome S))

/-- All that has been paid. -/
def Log.paid (log : Log S) : Int := (log.map fun (command, outcome) => command.paid outcome).sum

namespace World

/-- One command after the other, each of them allowed at the time. -/
inductive Run {τ : Type} (world : World S τ) (lightning : Lightning) (x : Scene S τ) :
    Log S → Scene S τ → Prop
  | start : Run world lightning x [] x
  | next {log : Log S} {y z : Scene S τ} {command : Command S}
    {outcome : Except (Error S) (Outcome S)} (before : Run world lightning x log y)
    (allowed : command.Allowed y.wallet.store)
    (ran : world.perform (command.operation lightning y.wallet.settings) y = (outcome, z)) :
    Run world lightning x (log ++ [(command, outcome)]) z

variable {supply : Supply S} {lightning : Lightning} {paid : Int} {x y : Scene S (Mint S × Nat)}

/-! ## What is new stays new -/

end World

/-- From one scene to a later one, more is drawn and more quotes are issued. -/
structure Scene.Later (x y : Scene S (Mint S × Nat)) : Prop where
  drawn : x.drawn ≤ y.drawn
  ids : (x.mint.1.quotes.map (·.id)).Sublist (y.mint.1.quotes.map (·.id))

instance : IsPreorder (Scene S (Mint S × Nat)) Scene.Later where
  refl _ := ⟨Nat.le_refl _, .refl _⟩
  trans _ _ _ first second := ⟨Nat.le_trans first.drawn second.drawn, first.ids.trans second.ids⟩

theorem ids_of_serve (lightning : Lightning) (source : MintSource S) (m : Mint S)
    (call : MintCall S) : (m.quotes.map (·.id)).Sublist
      ((m.serve lightning source call).2.quotes.map (·.id)) := by
  have settled {α : Type} (outcome : Except Refusal (α × Mint S))
      (granted : ∀ answer m', outcome = .ok (answer, m') →
        (m.quotes.map (·.id)).Sublist (m'.quotes.map (·.id))) :
      (m.quotes.map (·.id)).Sublist ((m.settle outcome).2.quotes.map (·.id)) := by
    rcases outcome with _ | ⟨answer, m'⟩
    · exact .refl _
    · exact granted answer m' rfl
  cases call with
  | quote request =>
    refine settled _ fun answer m' granted => ?_
    rw [(Mint.quote_eq_ok granted).2]
    exact List.sublist_cons_self _ _
  | mint request =>
    refine settled _ fun answer m' granted => ?_
    obtain ⟨quote, minted⟩ := Mint.mint_eq_ok granted
    rw [minted.changed, Mint.map_id_mark]
  | split request =>
    refine settled _ fun answer m' granted => ?_
    obtain ⟨ys, split⟩ := Mint.split_eq_ok granted
    rw [split.changed]
  | melt request =>
    refine settled _ fun answer m' granted => ?_
    obtain ⟨quote, ys, melted⟩ := Mint.melt_eq_ok granted
    rw [melted.changed]
  | keys | keyset | keysets | info | meltQuote | checkState => exact .refl _

namespace World

variable {supply : Supply S} {lightning : Lightning} {paid : Int} {x y : Scene S (Mint S × Nat)}

theorem later_meet (request : Request S) (x : Scene S (Mint S × Nat)) :
    x.Later ((supply.world lightning).meet request x).2 := by
  cases request with
  | store call => exact ⟨Nat.le_refl _, .refl _⟩
  | memory call => exact ⟨Nat.le_refl _, .refl _⟩
  | mint call => exact ⟨Nat.le_refl _, ids_of_serve lightning _ x.mint.1 call⟩
  | fresh call =>
    cases call with
    | draw => exact ⟨Nat.le_succ _, .refl _⟩
    | meltId => exact ⟨Nat.le_refl _, .refl _⟩

/-! ## One command -/

variable {G : Type} [AddCommGroup G] (laws : S.Laws G)

include laws

theorem keeps_operation (h : (supply.world lightning).InStep paid x) (settings : Settings)
    {command : Command S} (unpaid : ∀ proofs request reserve, command ≠ .pay proofs request reserve)
    (allowed : command.Allowed x.wallet.store) :
    (supply.world lightning).Keeps paid (command.operation lightning settings) x := by
  have free : ProofStatus.unspent ≠ .spent := nofun
  cases command with
  | «open» => exact (Keeps.of_calm h registers_calm.open).map
  | info => exact (Keeps.of_calm h (registers_calm.told .info trivial)).map
  | denominations => exact (Keeps.of_calm h (.denominations settings)).map
  | fetchKeys => exact (Keeps.of_calm h registers_calm.fetchKeys).map
  | fetchKeysOf id => exact (Keeps.of_calm h (registers_calm.fetchKeysOf id)).map
  | fetchKeysetIds => exact (Keeps.of_calm h registers_calm.fetchKeysetIds).map
  | cachedCurrent => exact (Keeps.of_calm h .cachedCurrent).map
  | currentKeyset => exact (Keeps.of_calm h registers_calm.currentKeyset).map
  | add proofs status mintId => exact allowed.elim
  | reserve ys => exact (Keeps.reserve h ys).map
  | unreserve proofs => exact (Keeps.unreserve h proofs).map
  | requestMint amount => exact (Keeps.requestMint h amount).map
  | mint amount parts invoiceId =>
    exact (Keeps.mintProofs laws h settings amount parts invoiceId).map
  | prepareSplit proofs amount =>
    exact (Keeps.of_idle h ((ends_prepareSplit_idle settings proofs amount x).mono
      (fun _ _ idle => idle.1) fun _ _ idle => idle)).map
  | split proofs amount => exact (Keeps.splitInto laws h settings free allowed amount).map
  | splitToSend proofs amount reserved =>
    exact (Keeps.splitToSend laws h settings allowed amount reserved).map
  | send amount memo => exact (Keeps.send laws h settings amount memo).map
  | redeem proofs => exact (Keeps.redeem laws h settings allowed).map
  | receive text =>
    refine (Keeps.receive laws h settings fun token decoded p mem => allowed p ?_).map
    rw [Command.given, decoded]
    exact mem
  | checkState proofs => exact (Keeps.of_calm h (registers_calm.checkState proofs)).map
  | invalidate proofs checked => exact (Keeps.invalidate h proofs allowed).map
  | payQuote request => exact (Keeps.of_calm h (registers_calm.payQuote request)).map
  | pay proofs request reserve => exact absurd rfl (unpaid proofs request reserve)
  | held states => exact (Keeps.of_calm h (World.Registers.proofsIn states)).map

/-- What a command has paid is what is missing afterwards. -/
theorem ends_operation (h : (supply.world lightning).InStep paid x) (settings : Settings)
    {command : Command S} (allowed : command.Allowed x.wallet.store) :
    (supply.world lightning).Ends (command.operation lightning settings) x
      (fun outcome => (supply.world lightning).Kept (paid + command.paid (.ok outcome)))
      fun e => (supply.world lightning).Kept (paid + command.paid (.error e)) := by
  by_cases unpaid : ∀ proofs request reserve, command ≠ .pay proofs request reserve
  · refine (keeps_operation laws h settings unpaid allowed).mono (fun outcome y kept => ?_)
      fun e y kept => ?_
    · rw [Command.paid_of_unpaid unpaid, add_zero]
      exact kept
    · rw [Command.paid_of_unpaid unpaid, add_zero]
      exact kept
  · push Not at unpaid
    obtain ⟨proofs, request, reserve, rfl⟩ := unpaid
    refine Ends.map ((Keeps.pay laws h settings allowed request reserve).mono
      (fun payment y kept => kept) fun e y kept => ?_)
    rw [Command.paid, add_zero]
    · exact kept
    · exact nofun

/-! ## A whole run -/

theorem Run.kept (start : (supply.world lightning).InStep 0 x) {log : Log S}
    (run : (supply.world lightning).Run lightning x log y) :
    (supply.world lightning).Kept log.paid y := by
  induction run with
  | start => exact start.kept
  | @next log y z command outcome before allowed ran kept =>
    intro fresh ids
    -- What was new after the last command was new before it.
    have later : y.Later z :=
      (Within.of_meet later_meet _ y).of_perform (Q := fun _ => y.Later) ran
    have h := kept (fresh.of_le later.drawn) (ids.sublist later.ids)
    have paid : Log.paid (log ++ [(command, outcome)]) = log.paid + command.paid outcome := by
      simp [Log.paid]
    have ended := (ends_operation laws h y.wallet.settings allowed).of_perform
      (Q := fun outcome => (supply.world lightning).Kept (log.paid + command.paid outcome)) ran
    rw [paid]
    exact ended fresh ids

omit laws in
/-- The balance is the value of all proofs that are held, if an amount can be that much. -/
theorem InStep.perform_balance {world : World S (Mint S × Nat)} (h : world.InStep paid x) :
    (world.perform balance x).1 = (Amount.ofExact
      (Proof.exactTotal (x.wallet.store.held.map (·.proof)))).mapError .ofAmount := by
  have answer : (world.perform balance x).1 = x.wallet.total [.unspent, .reserved] := rfl
  have all : x.wallet.store.heldIn (some [.unspent, .reserved]) = x.wallet.store.held := by
    refine List.filter_eq_self.2 fun row mem => ?_
    have free := (h.each _ (Store.mem_held.1 mem)).free rfl
    cases status : row.status with
    | spent => exact absurd status free
    | unspent | reserved => rfl
  rw [answer, total, held, all, Proof.total_eq_ofExact,
    Proof.exactTotal_perm (Proof.sortByAmount_perm _)]

end World

/-- Whatever a wallet without anything in its store has been told to do before a mint of its own
that was new, it has archived exactly what the mint has taken; what it holds has not been taken and
is signed by the mint; and its balance is what was issued to it less what it has paid. -/
theorem in_step_of_run {supply : Supply S} {lightning : Lightning} {G : Type} [AddCommGroup G]
    (laws : S.Laws G) {m : Mint S} (new : m.IsNew) (sound : m.Sound) {settings : Settings}
    {log : Log S} {x : Scene S (Mint S × Nat)}
    (run : (supply.world lightning).Run lightning ⟨.ofStore settings .empty, (m, 0), 0, 0⟩ log x)
    (fresh : (supply.world lightning).Fresh 0 x.drawn [])
    (ids : (x.mint.1.quotes.map (·.id)).Nodup) :
    (∀ p ∈ x.wallet.store.proofs, p.row.proof.y = .ok p.row.y) ∧
      (∀ y, y ∈ x.wallet.store.archive.map (·.y) ↔ y ∈ x.mint.1.spent) ∧
      (∀ row ∈ x.wallet.store.held, row.y ∉ x.mint.1.spent ∧
        ∃ pair, x.mint.1.keyPair row.proof.keysetId row.proof.amount = .ok pair ∧
          Blind.verify S pair.secretKey row.proof.signature row.proof.secret.toBytes = .ok ()) ∧
      ∃ n : Nat, (n : Int) = x.mint.1.issuedValue - log.paid ∧
        ((supply.world lightning).perform balance x).1 = (Amount.ofExact n).mapError .ofAmount := by
  have start : (supply.world lightning).InStep 0 ⟨.ofStore settings .empty, (m, 0), 0, 0⟩ :=
    .start sound new.spent new.quotes settings
  have h := run.kept laws start fresh ids
  refine ⟨fun p mem => (h.each p mem).point, fun y => ⟨fun gone => ?_, fun taken => ?_⟩,
    fun row mem => ⟨fun taken => ?_, (h.each _ (Store.mem_held.1 mem)).signed⟩, _, ?_,
    h.perform_balance⟩
  · obtain ⟨row, archived, rfl⟩ := List.mem_map.1 gone
    exact (h.each _ (Store.mem_archive.1 archived)).spent.1 rfl
  · obtain ⟨⟨row, archived⟩, there, rfl⟩ := List.mem_map.1 (h.known y taken)
    obtain rfl : archived = true := (h.each _ there).spent.2 taken
    exact List.mem_map_of_mem (Store.mem_archive.2 there)
  · have archived := (h.each _ (Store.mem_held.1 mem)).spent.2 taken
    cases archived
  · have balanced := h.balanced
    omega

end Chaumian.Wallet

namespace Chaumian.Sample

open Wallet

/-- What is new is told by its number: secrets are the letters in turn. -/
def supply : Supply suite where
  source n := ⟨fun i => scalar (20 + n + i), ⟨s!"quote {n}", [], n⟩⟩
  draw n := (secret n, scalar n)
  meltId n := s!"payment {n}"

/-- A wallet that has done nothing, before the sample mint. -/
def beginning : Scene suite (Mint suite × Nat) := ⟨.ofStore .default .empty, (mint, 0), 0, 0⟩

/-- What there is when one more command has been told. -/
def andThen (session : Log suite × Scene suite (Mint suite × Nat)) (command : Command suite) :
    Log suite × Scene suite (Mint suite × Nat) :=
  let (outcome, x) := (supply.world clock).perform
    (command.operation clock session.2.wallet.settings) session.2
  (session.1 ++ [(command, outcome)], x)

theorem run_andThen {session : Log suite × Scene suite (Mint suite × Nat)}
    (run : (supply.world clock).Run clock beginning session.1 session.2) {command : Command suite}
    (allowed : command.Allowed session.2.wallet.store) :
    (supply.world clock).Run clock beginning (andThen session command).1
      (andThen session command).2 :=
  .next run allowed (Prod.eta _).symm

/-- A wallet is issued an invoice of 3. -/
def invoiced : Log suite × Scene suite (Mint suite × Nat) :=
  andThen ([], beginning) (.requestMint (.clamp 3))

/-- It has proofs minted for it, and is issued another invoice. -/
def issued : Log suite × Scene suite (Mint suite × Nat) :=
  andThen (andThen invoiced (.mint (.clamp 3) none "quote 0")) (.requestMint (.clamp 1))

/-- That one it pays with all that it holds. -/
def settled : Log suite × Scene suite (Mint suite × Nat) :=
  andThen issued (.pay (issued.2.wallet.store.held.map (·.proof)) "invoice 3" (.clamp 2))

theorem run_settled : (supply.world clock).Run clock beginning settled.1 settled.2 := by
  have nothing (store : Store suite) : ∀ p ∈ ([] : List (Proof suite)), store.Knows p :=
    fun p none => nomatch none
  have first : (supply.world clock).Run clock beginning invoiced.1 invoiced.2 :=
    run_andThen .start (nothing _)
  have second : (supply.world clock).Run clock beginning issued.1 issued.2 := by
    refine run_andThen (run_andThen first ?_) ?_
    · exact nothing _
    · exact nothing _
  refine run_andThen second fun p mem => ?_
  obtain ⟨row, held, rfl⟩ := List.mem_map.1 mem
  exact ⟨_, Store.mem_held.1 held, rfl, rfl⟩

set_option maxRecDepth 4000

/-- The payment is of 1, and 2 are left of what was issued. -/
theorem in_step_settled : settled.1.paid = 1 ∧ settled.2.mint.1.issuedValue = 3 ∧
    ((supply.world clock).perform balance settled.2).1 = .ok (.clamp 2) := by
  have evaluated : (settled.1.paid = 1 ∧ settled.2.mint.1.issuedValue = 3) ∧
      ((supply.world clock).points 0 settled.2.drawn).Nodup ∧
      (settled.2.mint.1.quotes.map (·.id)).Nodup := by
    decide +kernel
  obtain ⟨⟨paid, issued⟩, fresh, ids⟩ := evaluated
  have : Fact (Nat.Prime 251) := ⟨by decide +kernel⟩
  have sound : mint.Sound := ⟨List.nodup_singleton _, by decide +kernel⟩
  obtain ⟨-, -, -, n, value, balance⟩ := in_step_of_run (Suite.lawsOfScalars (by decide))
    ⟨rfl, rfl, rfl⟩ sound run_settled (.of_points fresh fun _ none => nomatch none) ids
  rw [paid, issued] at value
  obtain rfl : n = 2 := by omega
  exact ⟨paid, issued, balance⟩

end Chaumian.Sample
