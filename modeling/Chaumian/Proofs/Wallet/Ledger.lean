import Chaumian.Proofs.Wallet.Exclusion
import Chaumian.Proofs.Wallet.Settling

/-!
# The ledger of invoices

What becomes of the invoices in a store while commands are at work on it. A `Course` is what comes
of any number of commands in any order, each of which may be given up between two of its steps; only
the store answers as it does, and everything else may be answered in any way.

`Course.Kept` is the invariant for one identifier: the ledger has an invoice under it only if one
was recorded, and what commands have read of this invoice differs from it in nothing but whether it
is settled. A step keeps it as long as one invoice at most is recorded under the identifier
(`Course.Kept.step`), and so does a course (`Course.Kept.reaches`).

`invoice_kept` is what follows: there is always an invoice under the identifier of one that was
stored, and as long as no other one is recorded under it, it is this invoice, and settled once it
was. The condition is one on the mint, since a command that asks for an invoice does not look whether
the ledger has one of that identifier: in `requested_again` the record of an invoice that was settled
is gone when the mint gives its identifier to another one.
-/

namespace Chaumian

namespace Invoice

/-- A later record of an invoice: it is about the same, and settled if it was before. -/
structure Continues (later earlier : Invoice) : Prop where
  id : later.id = earlier.id
  direction : later.direction = earlier.direction
  amount : later.amount = earlier.amount
  paymentRequest : later.paymentRequest = earlier.paymentRequest
  paymentHash : later.paymentHash = earlier.paymentHash
  settled : earlier.settled = true → later.settled = true

theorem Continues.refl (i : Invoice) : i.Continues i where
  id := rfl
  direction := rfl
  amount := rfl
  paymentRequest := rfl
  paymentHash := rfl
  settled before := before

theorem Continues.trans {i j k : Invoice} (second : k.Continues j) (first : j.Continues i) :
    k.Continues i where
  id := second.id.trans first.id
  direction := second.direction.trans first.direction
  amount := second.amount.trans first.amount
  paymentRequest := second.paymentRequest.trans first.paymentRequest
  paymentHash := second.paymentHash.trans first.paymentHash
  settled before := second.settled (first.settled before)

/-- Two records that differ in nothing but whether they are settled, the later one of which is. -/
theorem Continues.of_asSettled {later earlier : Invoice}
    (same : later.asSettled = earlier.asSettled) (settled : later.settled = true) :
    later.Continues earlier where
  id := (congrArg Invoice.id same :)
  direction := (congrArg Invoice.direction same :)
  amount := (congrArg Invoice.amount same :)
  paymentRequest := (congrArg Invoice.paymentRequest same :)
  paymentHash := (congrArg Invoice.paymentHash same :)
  settled _ := settled

end Invoice

namespace Store

variable {S : Suite} {before after : Store S} {id : String}

/-- What has been read of an invoice differs from what the store has of it in nothing but whether it
is settled. -/
def Bears (store : Store S) (id : String) (read : List Invoice) : Prop :=
  ∀ r ∈ read, r.id = id → ∃ now, store.invoice? id = some now ∧ now.asSettled = r.asSettled

/-- Nothing has become of the record of an invoice but that it may be settled. -/
def Keeps (after before : Store S) (id : String) : Prop :=
  ∀ now, before.invoice? id = some now →
    after.invoice? id = some now ∨ after.invoice? id = some now.asSettled

theorem Bears.of_keeps {read : List Invoice} (h : before.Bears id read)
    (keeps : after.Keeps before id) : after.Bears id read := by
  intro r mem same
  obtain ⟨now, stored, agrees⟩ := h r mem same
  obtain still | settled := keeps now stored
  · exact ⟨now, still, agrees⟩
  · exact ⟨now.asSettled, settled, agrees⟩

theorem Keeps.continues (keeps : after.Keeps before id) {invoice : Invoice}
    (stored : before.invoice? id = some invoice) :
    ∃ now, after.invoice? id = some now ∧ now.Continues invoice := by
  obtain still | settled := keeps invoice stored
  · exact ⟨invoice, still, .refl invoice⟩
  · exact ⟨invoice.asSettled, settled, .of_asSettled rfl rfl⟩

end Store

namespace Wallet

variable {S : Suite} {ι ω : Type}

/-! ## What a call does to the ledger -/

namespace StoreCall

variable {call : StoreCall S}

/-- The ledger has under an identifier what it had before a call, or what the call puts in. -/
theorem invoice?_perform (call : StoreCall S) (store : Store S) (id : String) :
    (call.perform store).2.invoice? id = store.invoice? id ∨
      ∃ added, call.puts? = some added ∧ added.id = id ∧
        (call.perform store).2.invoice? id = some added := by
  obtain ⟨proofs, done⟩ | ⟨k, -, done⟩ | ⟨added, rfl, done⟩ := call.perform_parts store
  · rw [done]
    exact .inl rfl
  · have same := Store.invoices_of_books (Store.books_learn store k)
    rw [done, Store.invoice?, same]
    exact .inl rfl
  · rw [done, Store.invoice?_addInvoice]
    split
    · rename_i here
      exact .inr ⟨added, rfl, here, rfl⟩
    · exact .inl rfl

/-- What is found in the ledger is what is there. -/
theorem mem_found {store : Store S} {r : Invoice}
    (mem : r ∈ found (.store call) (call.perform store).1) : store.invoice? r.id = some r := by
  cases call with
  | invoice id =>
    rcases there : store.invoice? id with _ | invoice
    · rw [perform, there] at mem
      cases mem
    · rw [perform, there] at mem
      obtain rfl := List.mem_singleton.1 mem
      rw [Store.id_of_invoice? there, there]
  | _ => cases mem

end StoreCall

/-! ## Courses -/

/-- Commands at work on one store: the calls of it that have succeeded, with whose they were, and
what each command is still to do. -/
structure Course (S : Suite) (ι : Type) where
  store : Store S
  calls : List (ι × StoreCall S)
  rest : ι → Steps S (Except (Error S) (Outcome S))

/-- What there is to do: commands to wallets over one store. -/
structure Agenda (S : Suite) (ι : Type) where
  store : Store S
  lightning : Lightning
  settings : ι → Settings
  commands : ι → Command S

namespace Agenda

/-- The commands are all about to begin. -/
def begin (a : Agenda S ι) : Course S ι :=
  ⟨a.store, [], fun i => ((a.commands i).operation a.lightning (a.settings i)).run⟩

/-- The identifier under which a call records a new invoice, if it is one of a command that does. -/
def recorded? (a : Agenda S ι) : ι × StoreCall S → Option String
  | (i, call) => if (a.commands i).records then call.puts?.map (·.id) else none

/-- The identifiers under which invoices were recorded in the beginning or are recorded by the
commands, each as often as it happens. -/
def recorded (a : Agenda S ι) (x : Course S ι) : List String :=
  a.store.invoices.map (·.id) ++ x.calls.filterMap a.recorded?

end Agenda

namespace Course

variable {a : Agenda S ι} {x y z : Course S ι} {id : String} {i : ι} {call : StoreCall S}

/-- The course when a command has called the store and is to do the rest. -/
def called [DecidableEq ι] (x : Course S ι) (i : ι) (call : StoreCall S)
    (rest : Steps S (Except (Error S) (Outcome S))) : Course S ι where
  store := (call.perform x.store).2
  calls := if (call.perform x.store).1.isOk then x.calls ++ [(i, call)] else x.calls
  rest := Function.update x.rest i rest

/-- Some command goes one step on. The store answers as it does, and everything else may be answered
in any way. -/
inductive Step [DecidableEq ι] (x : Course S ι) : Course S ι → Prop
  | store {i : ι} {call : StoreCall S}
      {next : Except (Store.Error S) call.Result → Steps S (Except (Error S) (Outcome S))}
      (asks : x.rest i = .ask (.store call) next) :
      Step x (x.called i call (next (call.perform x.store).1))
  | other {i : ι} {request : Request S}
      {next : request.Answer → Steps S (Except (Error S) (Outcome S))}
      (asks : x.rest i = .ask request next) (elsewhere : ∀ call, request ≠ .store call)
      (answer : request.Answer) :
      Step x { x with rest := Function.update x.rest i (next answer) }

/-- What it may come to in any number of steps. -/
abbrev Reaches [DecidableEq ι] : Course S ι → Course S ι → Prop := Relation.ReflTransGen Step

/-- A call of the store is noted if it records an invoice. -/
theorem recorded_called [DecidableEq ι] (a : Agenda S ι) (x : Course S ι) (i : ι)
    (call : StoreCall S) (rest : Steps S (Except (Error S) (Outcome S))) :
    a.recorded (x.called i call rest) = a.recorded x ++ (a.recorded? (i, call)).toList := by
  have noted : (x.calls ++ [(i, call)]).filterMap a.recorded? =
      x.calls.filterMap a.recorded? ++ (a.recorded? (i, call)).toList := by
    rw [List.filterMap_append, List.filterMap_cons, List.filterMap_nil]
    cases a.recorded? (i, call) <;> rfl
  rw [Agenda.recorded, Agenda.recorded, List.append_assoc, called]
  dsimp only
  split
  · rw [noted]
  · rename_i failed
    have nothing : a.recorded? (i, call) = none := by
      cases call with
      | addInvoice added => exact absurd rfl failed
      | _ => exact ite_self none
    rw [nothing, Option.toList_none, List.append_nil]

/-! ## What is known of an identifier -/

/-- What is known of an identifier in a course: the ledger has an invoice under it only if one was
recorded, and what commands that record none have read of it is what the ledger has. -/
structure Kept (a : Agenda S ι) (id : String) (x : Course S ι) : Prop where
  recorded : (x.store.invoice? id).isSome → id ∈ a.recorded x
  settling : ∀ i, (a.commands i).records = false →
    ∃ read, Settling (x.rest i) read ∧ x.store.Bears id read

namespace Kept

theorem begin (a : Agenda S ι) (id : String) : a.begin.Kept a id where
  recorded there := by
    obtain ⟨invoice, stored⟩ := Option.isSome_iff_exists.1 there
    have mem : invoice ∈ a.store.invoices := List.mem_of_find?_eq_some stored
    exact List.mem_append_left _ (List.mem_map.2 ⟨invoice, mem, Store.id_of_invoice? stored⟩)
  settling i only := ⟨[], Command.settles only _ _, nofun⟩

variable {next : Except (Store.Error S) call.Result → Steps S (Except (Error S) (Outcome S))}

/-- A command that records no invoices puts in what the ledger has, marked as settled. -/
theorem exists_of_puts (h : x.Kept a id) (asks : x.rest i = .ask (.store call) next)
    (only : (a.commands i).records = false) {added : Invoice} (puts : call.puts? = some added)
    (here : added.id = id) : ∃ now, x.store.invoice? id = some now ∧ added = now.asSettled := by
  obtain ⟨read, settling, bears⟩ := h.settling i only
  rw [asks] at settling
  obtain ⟨r, mem, rfl⟩ := settling.1 added puts
  obtain ⟨now, stored, agrees⟩ := bears r mem here
  exact ⟨now, stored, agrees.symm⟩

/-- The ledger has an invoice under an identifier after a call only if one was recorded, if only by
this call. -/
theorem recorded_perform (h : x.Kept a id) (asks : x.rest i = .ask (.store call) next)
    (there : ((call.perform x.store).2.invoice? id).isSome) :
    id ∈ a.recorded x ++ (a.recorded? (i, call)).toList := by
  obtain same | ⟨added, puts, here, -⟩ := call.invoice?_perform x.store id
  · rw [same] at there
    exact List.mem_append_left _ (h.recorded there)
  · cases only : (a.commands i).records with
    | false =>
      obtain ⟨now, stored, -⟩ := h.exists_of_puts asks only puts here
      exact List.mem_append_left _ (h.recorded (stored ▸ rfl))
    | true =>
      rw [Agenda.recorded?, if_pos only, puts, Option.map_some, here]
      exact List.mem_append_right _ (List.mem_singleton.2 rfl)

/-- A call keeps the record of an identifier, unless it records another invoice under it. -/
theorem keeps_perform (h : x.Kept a id) (asks : x.rest i = .ask (.store call) next)
    (once : (a.recorded x ++ (a.recorded? (i, call)).toList).count id ≤ 1) :
    (call.perform x.store).2.Keeps x.store id := by
  intro now stored
  obtain same | ⟨added, puts, here, after⟩ := call.invoice?_perform x.store id
  · exact .inl (same.trans stored)
  · rw [after]
    cases only : (a.commands i).records with
    | false =>
      obtain ⟨now', stored', rfl⟩ := h.exists_of_puts asks only puts here
      cases stored.symm.trans stored'
      exact .inr rfl
    | true =>
      -- Two invoices would be recorded under the identifier.
      have first := List.count_pos_iff.2 (h.recorded (stored ▸ rfl))
      rw [Agenda.recorded?, if_pos only, puts, Option.map_some, here, Option.toList_some,
        List.count_append, List.count_singleton_self] at once
      omega

variable [DecidableEq ι]

/-- Once a request is answered, what commands have read is what the ledger has. -/
theorem settling_answered (h : x.Kept a id) {request : Request S}
    {next : request.Answer → Steps S (Except (Error S) (Outcome S))}
    (asks : x.rest i = .ask request next) {answer : request.Answer}
    (there : ∀ r ∈ found request answer, x.store.invoice? r.id = some r) (j : ι)
    (only : (a.commands j).records = false) :
    ∃ read, Settling (Function.update x.rest i (next answer) j) read ∧ x.store.Bears id read := by
  obtain ⟨read, settling, bears⟩ := h.settling j only
  by_cases here : j = i
  · subst here
    rw [asks] at settling
    rw [Function.update_self]
    refine ⟨found request answer ++ read, settling.2 answer, ?_⟩
    refine List.forall_mem_append.2 ⟨fun r mem same => ?_, bears⟩
    exact ⟨r, same ▸ there r mem, rfl⟩
  · rw [Function.update_of_ne here]
    exact ⟨read, settling, bears⟩

/-- A step keeps what is known, as long as one invoice at most is recorded under the identifier. -/
theorem step (h : x.Kept a id) (step : Step x y) (once : (a.recorded y).count id ≤ 1) :
    y.Kept a id ∧ y.store.Keeps x.store id := by
  cases step with
  | @other i request next asks elsewhere answer =>
    have nothing : found request answer = [] := by
      cases request with
      | store call => exact absurd rfl (elsewhere call)
      | _ => rfl
    refine ⟨⟨h.recorded, h.settling_answered asks ?_⟩, fun now stored => .inl stored⟩
    rw [nothing]
    exact List.forall_mem_nil _
  | @store i call next asks =>
    rw [recorded_called] at once
    have keeps := h.keeps_perform asks once
    refine ⟨⟨fun there => ?_, fun j only => ?_⟩, keeps⟩
    · rw [recorded_called]
      exact h.recorded_perform asks there
    · obtain ⟨read, settling, bears⟩ :=
        h.settling_answered asks (fun r => StoreCall.mem_found) j only
      exact ⟨read, settling, bears.of_keeps keeps⟩

end Kept

/-! ## What a course keeps -/

section

variable [DecidableEq ι]

/-- An identifier under which there is an invoice has one whatever is done next. -/
theorem Step.isSome_invoice? (step : Step x y) (there : (x.store.invoice? id).isSome) :
    (y.store.invoice? id).isSome := by
  cases step with
  | other => exact there
  | @store i call next asks =>
    obtain same | ⟨added, -, -, after⟩ := call.invoice?_perform x.store id
    · exact same ▸ there
    · exact after ▸ rfl

theorem Step.recorded_sublist (a : Agenda S ι) (step : Step x y) :
    (a.recorded x).Sublist (a.recorded y) := by
  cases step with
  | other => exact .refl _
  | store asks =>
    rw [recorded_called]
    exact List.sublist_append_left _ _

/-- So does a whole course keep what is known, and the record of the identifier goes on. -/
theorem Kept.reaches (h : x.Kept a id) (reached : Reaches x y)
    (once : (a.recorded y).count id ≤ 1) :
    y.Kept a id ∧ ∀ invoice, x.store.invoice? id = some invoice →
      ∃ now, y.store.invoice? id = some now ∧ now.Continues invoice := by
  induction reached with
  | refl => exact ⟨h, fun invoice stored => ⟨invoice, stored, .refl invoice⟩⟩
  | tail _ step ih =>
    obtain ⟨kept, continued⟩ := ih (((step.recorded_sublist a).count_le id).trans once)
    obtain ⟨kept, keeps⟩ := kept.step step once
    refine ⟨kept, fun invoice stored => ?_⟩
    obtain ⟨between, stored, first⟩ := continued invoice stored
    obtain ⟨now, stored, second⟩ := keeps.continues stored
    exact ⟨now, stored, second.trans first⟩

theorem Reaches.isSome_invoice? (reached : Reaches x y) (there : (x.store.invoice? id).isSome) :
    (y.store.invoice? id).isSome := by
  induction reached with
  | refl => exact there
  | tail _ step ih => exact step.isSome_invoice? ih

theorem Reaches.recorded_sublist (a : Agenda S ι) (reached : Reaches x y) :
    (a.recorded x).Sublist (a.recorded y) := by
  induction reached with
  | refl => exact .refl _
  | tail _ step ih => exact ih.trans (step.recorded_sublist a)

end

end Course

/-! ## Commands among others -/

namespace Interleaved

/-- The course that commands are in, whatever else they have in common. -/
def course (x : Interleaved S ι ω fun _ => Outcome S) : Course S ι :=
  ⟨x.shared.store, x.shared.journal, x.rest⟩

variable [DecidableEq ι] [DecidableEq ω] {wallet : ι → ω}
  {x y : Interleaved S ι ω fun _ => Outcome S}

theorem StepOf.course {i : ι} (step : StepOf wallet i x y) : Course.Step x.course y.course := by
  obtain ⟨shared, rest⟩ := y
  obtain ⟨request, next, answer, asks, met, rfl⟩ := step
  have other (elsewhere : ∀ call, request ≠ .store call) :
      x.course.Step ⟨x.shared.store, x.shared.journal, Function.update x.rest i (next answer)⟩ :=
    .other (x := x.course) asks elsewhere answer
  cases met with
  | store call => exact .store (x := x.course) asks
  | memory call | mint call | draw | name => exact other fun _ same => (nomatch same)

theorem Reaches.course (reached : Reaches wallet x y) : Course.Reaches x.course y.course := by
  induction reached with
  | refl => exact .refl
  | tail _ step ih =>
    obtain ⟨i, step⟩ := step
    exact ih.tail step.course

end Interleaved

/-- **The ledger keeps its invoices.** An invoice that is in the ledger at some time is in it ever
after, and as long as one invoice at most has been recorded under its identifier its record is about
the same and does not cease to be settled. -/
theorem invoice_kept [DecidableEq ι] (a : Agenda S ι) {x y : Course S ι}
    (reached : Course.Reaches a.begin x) (later : Course.Reaches x y) {id : String}
    {invoice : Invoice} (stored : x.store.invoice? id = some invoice) :
    ∃ now, y.store.invoice? id = some now ∧
      ((a.recorded y).count id ≤ 1 → now.Continues invoice) := by
  by_cases once : (a.recorded y).count id ≤ 1
  · have before := ((later.recorded_sublist a).count_le id).trans once
    obtain ⟨kept, -⟩ := (Course.Kept.begin a id).reaches reached before
    obtain ⟨now, there, continued⟩ := (kept.reaches later once).2 invoice stored
    exact ⟨now, there, fun _ => continued⟩
  · have before : (x.store.invoice? id).isSome := by
      rw [stored]
      rfl
    obtain ⟨now, there⟩ := Option.isSome_iff_exists.1 (later.isSome_invoice? before)
    exact ⟨now, there, fun single => absurd single once⟩

end Wallet

namespace Sample

open Wallet

/-- A wallet asks for an invoice of 8, has proofs minted for it and asks for another one, of 4. -/
def orders : Agenda suite (Fin 3) where
  store := (wallet []).store
  lightning := lightning
  settings _ := .default
  commands := ![.requestMint (.clamp 8), .mint (.clamp 8) none "first", .requestMint (.clamp 4)]

/-- These commands are about to begin. -/
def ordering : Interleaved suite (Fin 3) Unit fun _ => Outcome suite :=
  .begin orders.store (fun _ => (wallet []).memory) fun i =>
    (orders.commands i).operation orders.lightning (orders.settings i)

/-- A turn before a mint that gives the identifier `quoted` to an invoice and takes every invoice
for paid. -/
def ordersTurn (who : Nat) (quoted : String) : Turn suite (Fin 3) :=
  { turn who 3 with
    mint := fun
      | .quote _ => .ok ⟨quoted, quoted ++ " request", quoted ++ " hash"⟩
      | .mint request => .ok ⟨request.outputs.map signed⟩
      | _ => .error .keysetNotFound }

/-- Proofs have been minted for the first invoice. -/
def orderMinted : Interleaved suite (Fin 3) Unit fun _ => Outcome suite :=
  ordering.takeAll owner (.replicate 2 (ordersTurn 0 "first") ++ .replicate 12 (ordersTurn 1 ""))

/-- The mint has given an identifier to the second invoice. -/
def orderedAgain (quoted : String) : Interleaved suite (Fin 3) Unit fun _ => Outcome suite :=
  orderMinted.takeAll owner (.replicate 2 (ordersTurn 2 quoted))

set_option maxRecDepth 4000

/-- The first invoice when it is settled. -/
def orderSettled : Invoice :=
  ⟨"first", "first hash", "first request", .clamp 8, .incoming, true, none⟩

theorem invoice?_orderMinted :
    orderMinted.course.store.invoice? "first" = some orderSettled := by
  decide +kernel

/-- The first invoice is still there, settled and of 8, when the other one has been recorded. -/
theorem orders_kept : ∃ now, (orderedAgain "second").course.store.invoice? "first" = some now ∧
    now.amount = .clamp 8 ∧ now.settled = true := by
  have reached : Course.Reaches orders.begin orderMinted.course :=
    (Interleaved.reaches_takeAll owner _ ordering).course
  have later : Course.Reaches orderMinted.course (orderedAgain "second").course :=
    (Interleaved.reaches_takeAll owner _ orderMinted).course
  obtain ⟨now, there, continued⟩ := invoice_kept orders reached later invoice?_orderMinted
  have once : (orders.recorded (orderedAgain "second").course).count "first" ≤ 1 := by
    decide +kernel
  exact ⟨now, there, (continued once).amount, (continued once).settled rfl⟩

/-- When the mint gives the identifier of the first invoice to the other one, which is of 4, the
record of the first one is gone, and the one under its identifier is not settled. -/
theorem requested_again :
    Course.Reaches orders.begin orderMinted.course ∧
    Course.Reaches orderMinted.course (orderedAgain "first").course ∧
    orderMinted.course.store.invoice? "first" = some orderSettled ∧
    ∃ now, (orderedAgain "first").course.store.invoice? "first" = some now ∧
      now.amount ≠ orderSettled.amount ∧ orderSettled.settled = true ∧ now.settled = false := by
  refine ⟨(Interleaved.reaches_takeAll owner _ ordering).course,
    (Interleaved.reaches_takeAll owner _ orderMinted).course, invoice?_orderMinted,
    ⟨"first", "first hash", "first request", .clamp 4, .incoming, false, none⟩, ?_⟩
  decide +kernel

end Sample

end Chaumian
