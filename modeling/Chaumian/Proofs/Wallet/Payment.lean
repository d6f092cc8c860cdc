import Chaumian.Proofs.Wallet.Fresh
import Chaumian.Wallet.Melt

/-!
# What paying an invoice comes to

The proofs given are archived, and the change is stored, before the change is compared with what was
given. A payment that fails leaves the books alone, then, in every case but one: the mint has paid
and has signed more change than the proofs given are worth. That ends with an error although the
books have been changed.
-/

namespace Chaumian.Wallet

variable {S : Suite} {τ : Type}

namespace World

variable {world : World S τ} {x y : Scene S τ}

/-- The proofs given are archived under the next name of a payment, and the change is stored. -/
structure Taken (world : World S τ) (proofs : List (Proof S)) (request : String)
    (change : List (Proof S)) (x : Scene S τ) (taken : Store S) (drawn : Nat) : Prop where
  answered : ∃ (outputs : List (Output S)) (mint after : τ) (response : MeltResponse S),
    world.answer (.melt ⟨proofs, request, outputs⟩) mint = (.ok response, after) ∧
    response.paid = true ∧ change.map (·.amount) = response.change.map (·.amount)
  secrets : change.map (·.secret) = (List.range' x.drawn change.length).map world.secret
  drawn : x.drawn + change.length ≤ drawn
  counted : ∃ changeTotal : Amount, Proof.total change = .ok changeTotal
  stored : ∃ (ys : List S.Point) (rows : List (ProofRow S)) (store : Store S),
    Proof.ys proofs = .ok ys ∧ ProofRow.ofProofs change .unspent none = .ok rows ∧
    store.books = x.wallet.store.books ∧
    store.update rows ys (some (world.meltId x.named)) = .ok taken

theorem ends_changeProofs (settings : Settings) (blank : Premint S) (promises : List (Promise S))
    (x : Scene S τ) :
    world.Ends (changeProofs settings blank promises) x
      (fun change y => x.Undisturbed y ∧ change.map (·.amount) = promises.map (·.amount) ∧
        change.map (·.secret) = blank.secrets.take change.length ∧ change.length ≤ blank.size)
      (fun _ y => x.Undisturbed y) := by
  unfold changeProofs
  refine .guard (fun _ => refl x) fun fits => ?_
  cases promises with
  | nil => exact .pure ⟨refl x, rfl, rfl, Nat.zero_le _⟩
  | cons first rest =>
    refine .guard (fun _ => refl x) fun _ => ?_
    refine .within (Quiet.registers.fetchKeysOf _) (fun _ _ same => same) fun keyset y same => ?_
    refine .lift (fun change made => ?_) fun _ _ => same
    have made := mapError_eq_ok.1 made
    have amounts := Premint.amounts_of_proofs made
    have length : change.length = (first :: rest).length := by
      rw [← List.length_map (·.amount), amounts, List.length_map]
    refine ⟨same, amounts, ?_, by omega⟩
    rw [Premint.secrets_of_proofs made, length, Premint.secrets, Premint.secrets, Premint.take,
      List.map_take]

theorem ends_pay (lightning : Lightning) (settings : Settings) (proofs : List (Proof S))
    (request : String) (feeReserve : Amount) (x : Scene S τ) :
    world.Ends (pay lightning settings proofs request feeReserve) x
      (fun payment y => ∃ taken, world.Taken proofs request payment.change x taken y.drawn ∧
        payment.id = world.meltId x.named ∧ payment.paid = true ∧
        ∃ (total amount : Amount) (hash : String), Proof.total proofs = .ok total ∧
          Proof.exactTotal payment.change + amount.toNat = total.toNat ∧
          lightning.paymentHash? request = some hash ∧
          y.wallet.store = taken.addInvoice
            ⟨payment.id, hash, request, amount, .outgoing, true, payment.preimage⟩)
      (fun e y => y.wallet.store.books = x.wallet.store.books ∨
        ∃ change, world.Taken proofs request change x y.wallet.store y.drawn ∧
          Proof.exactTotal proofs < Proof.exactTotal change ∧ e = .amountTooLarge) := by
  unfold pay
  refine .guard (fun _ => .inl rfl) fun _ => ?_
  refine .guard (fun _ => .inl rfl) fun _ => ?_
  rcases read : lightning.paymentHash? request with _ | hash
  · exact .throw (.inl rfl)
  refine .seq (.lift (fun total counted => ?_) fun _ _ => .inl rfl)
  refine .seq (.lift (fun ys points => ?_) fun _ _ => .inl rfl)
  refine .claiming (.inl rfl) ?_
  refine .within Quiet.registers.currentKeyset (fun _ _ same => .inl same.books)
    fun keyset x₁ same => ?_
  refine .seq ((ends_premint keyset.id _ x₁).mono ?_ fun _ _ h => ?_)
  · rintro blank _ ⟨-, drawn, rfl⟩
    refine .seq (.freshMeltId ?_)
    refine .seq (.askMint (fun response after answered => ?_) fun _ _ _ => .inl same.books)
    have books : x₁.wallet.store.books = x.wallet.store.books := same.books
    refine .guard (fun _ => .inl books) fun paid => ?_
    refine .seq ((ends_changeProofs settings blank response.change _).mono ?_ fun _ _ still =>
      .inl (still.books.trans books))
    rintro change x₃ ⟨still, amounts, secrets, length⟩
    have books := still.books.trans books
    refine .seq (.lift (fun changeTotal changeCounted => ?_) fun _ _ => .inl books)
    refine .seq (.lift (fun rows rowsMade => ?_) fun _ _ => .inl books)
    -- The update changes the books, and one check comes after it.
    refine .seq (ends_update (fun store stored => ?_) fun _ _ => .inl books)
    have unused : x₁.drawn = x.drawn := same.drawn
    have unnamed : x₁.named = x.named := same.named
    obtain ⟨fits, secrets⟩ := drawn.take length secrets
    have within : x.drawn + change.length ≤ x₃.drawn := by
      have drawnThen : x₃.drawn = x₁.drawn + (Premint.blankAmounts feeReserve).length := still.drawn
      rw [drawnThen, unused]
      exact Nat.add_le_add_left fits _
    rw [unused] at secrets
    have stored : x₃.wallet.store.update rows ys (some (world.meltId x.named)) = .ok store :=
      unnamed ▸ stored
    have taken : world.Taken proofs request change x store x₃.drawn := by
      refine ⟨⟨_, _, after, response, answered, by simpa using paid, amounts⟩, secrets, within,
        ⟨changeTotal, mapError_eq_ok.1 changeCounted⟩, ys, rows, x₃.wallet.store, ?_, ?_, books,
        stored⟩
      · exact mapError_eq_ok.1 points
      · exact mapError_eq_ok.1 rowsMade
    have worth := Proof.exactTotal_of_total (mapError_eq_ok.1 counted)
    have changeWorth := Proof.exactTotal_of_total (mapError_eq_ok.1 changeCounted)
    rcases left : total.sub? changeTotal with _ | amount
    · -- There is more change than was given, which is noticed when the books have been changed.
      refine .throw (.inr ⟨change, taken, ?_, rfl⟩)
      rw [Amount.sub?] at left
      split at left
      · cases left
      · omega
    · refine .seq (.askStore (fun _ settled called => .pure ?_) fun _ _ called => ?_)
      · cases called
        obtain ⟨within, rest⟩ := Amount.toNat_of_sub? left
        refine ⟨store, taken, congrArg world.meltId unnamed, rfl, total, amount, hash,
          mapError_eq_ok.1 counted, ?_, rfl, rfl⟩
        dsimp only
        omega
      · cases called
  · obtain ⟨_, rfl⟩ := h
    exact .inl same.books

/-- From one store to another one, the proofs of some points that were held have been archived as
spent under a name, and others that were not held before are held now, free to be spent. -/
structure Traded (before after : Store S) (ys : List S.Point) (name : Option String)
    (new : List (Proof S)) : Prop where
  held : ∃ rows, ProofRow.ofProofs new .unspent none = .ok rows ∧
    (∀ row ∈ rows, row.y ∉ before.held.map (·.y)) ∧
    after.held = before.held.filter (·.y ∉ ys) ++ rows
  archive : ∀ row, row ∈ after.archive ↔ row ∈ before.archive ∨
    ∃ old ∈ before.held, old.y ∈ ys ∧ row = { old with status := .spent, meltId := name }

theorem Taken.traded {proofs change : List (Proof S)} {request : String} {taken : Store S}
    {drawn : Nat} (h : world.Taken proofs request change x taken drawn) {ys : List S.Point}
    (points : Proof.ys proofs = .ok ys)
    (fresh : world.Fresh x.drawn drawn (knownPoints x.wallet.store ys)) :
    Traded x.wallet.store taken ys (some (world.meltId x.named)) change := by
  obtain ⟨_, rows, store, points', made, books, stored⟩ := h.stored
  cases points.symm.trans points'
  have rowPoints := ProofRow.ys_of_ofProofs made
  have new (row : ProofRow S) (mem : row ∈ rows) :
      row.y ∉ knownPoints x.wallet.store ys :=
    fresh.notMem h.drawn h.secrets rowPoints (List.mem_map_of_mem mem)
  have updated := fresh.update h.drawn h.secrets rowPoints books (some (world.meltId x.named))
  cases updated.symm.trans stored
  refine ⟨⟨rows, made, fun row mem old => ?_, ?_⟩, fun row => ?_⟩
  · obtain ⟨other, held, same⟩ := List.mem_map.1 old
    exact new row mem (List.mem_append_right _
      (List.mem_map.2 ⟨⟨other, false⟩, Store.mem_held.1 held, same⟩))
  · rw [Store.held_exchange, Store.held_of_books books]
  · rw [Store.mem_archive_exchange, Store.archive_of_books books, Store.held_of_books books]

theorem Taken.invoices {proofs change : List (Proof S)} {request : String} {taken : Store S}
    {drawn : Nat} (h : world.Taken proofs request change x taken drawn) :
    taken.invoices = x.wallet.store.invoices := by
  obtain ⟨_, _, _, -, -, books, stored⟩ := h.stored
  exact (Store.invoices_of_update stored).trans (Store.invoices_of_books books)

theorem Traded.held_ne {before after : Store S} {ys : List S.Point} {name : Option String}
    {new : List (Proof S)} (h : Traded before after ys name new) (some : new ≠ []) :
    after.held ≠ before.held := by
  obtain ⟨rows, made, apart, held⟩ := h.held
  intro same
  have rowProofs := ProofRow.proofs_of_ofProofs made
  obtain ⟨row, mem⟩ : ∃ row, row ∈ rows := by
    refine List.exists_mem_of_ne_nil rows fun none => some ?_
    rw [← rowProofs, none, List.map_nil]
  refine apart row mem (List.mem_map_of_mem ?_)
  rw [← same, held]
  exact List.mem_append_right _ mem

end World

/-- What comes of paying an invoice, whatever the mint answers. If it succeeds, the proofs given
that were held are archived under the new name, the change is held, and a settled invoice is
recorded for what was given less the change. If it fails nothing has changed, unless the mint has
paid and signed more change than was given: then it fails as well, but the proofs given are archived
and the change is held, and no invoice tells of it. That the change is kept apart from all other
proofs is due to its secrets, which are taken to be new. -/
theorem pay_settles_or_fails {world : World S τ} {lightning : Lightning} {settings : Settings}
    {proofs : List (Proof S)} {request : String} {feeReserve : Amount} {x y : Scene S τ}
    {outcome : Except (Error S) (Payment S)}
    (ran : world.perform (pay lightning settings proofs request feeReserve) x = (outcome, y)) :
    match outcome with
    | .ok payment => payment.id = world.meltId x.named ∧
      (∃ ys, Proof.ys proofs = .ok ys ∧
        (world.Fresh x.drawn y.drawn (World.knownPoints x.wallet.store ys) →
          World.Traded x.wallet.store y.wallet.store ys (some payment.id) payment.change)) ∧
      ∃ (hash : String) (amount : Amount), lightning.paymentHash? request = some hash ∧
        Proof.exactTotal payment.change + amount.toNat = Proof.exactTotal proofs ∧
        y.wallet.store.invoices = Store.put Invoice.id
          ⟨payment.id, hash, request, amount, .outgoing, true, payment.preimage⟩
          x.wallet.store.invoices
    | .error e =>
      (y.wallet.store.held = x.wallet.store.held ∧
        y.wallet.store.archive = x.wallet.store.archive ∧
        y.wallet.store.invoices = x.wallet.store.invoices) ∨
      e = .amountTooLarge ∧ y.wallet.store.invoices = x.wallet.store.invoices ∧
        ∃ (ys : List S.Point) (change : List (Proof S)) (outputs : List (Output S)) (mint after : τ)
          (response : MeltResponse S), Proof.ys proofs = .ok ys ∧
          world.answer (.melt ⟨proofs, request, outputs⟩) mint = (.ok response, after) ∧
          response.paid = true ∧ change.map (·.amount) = response.change.map (·.amount) ∧
          Proof.exactTotal proofs < Proof.exactTotal change ∧
          (world.Fresh x.drawn y.drawn (World.knownPoints x.wallet.store ys) →
            y.wallet.store.held ≠ x.wallet.store.held ∧
              World.Traded x.wallet.store y.wallet.store ys (some (world.meltId x.named))
                change) := by
  cases outcome with
  | ok payment =>
    obtain ⟨taken, kept, named, -, total, amount, hash, counted, sum, read, stored⟩ :=
      (World.ends_pay lightning settings proofs request feeReserve x).ok ran
    obtain ⟨ys, -, -, points, -⟩ := kept.stored
    refine ⟨named, ⟨ys, points, fun fresh => ?_⟩, hash, amount, read, ?_, ?_⟩
    · have traded := kept.traded points fresh
      rw [← named] at traded
      rw [stored]
      exact ⟨traded.held, traded.archive⟩
    · rw [sum, Proof.exactTotal_of_total counted]
    · rw [stored, Store.addInvoice, kept.invoices]
  | error e =>
    rcases (World.ends_pay lightning settings proofs request feeReserve x).error ran with
      same | ⟨change, kept, more, rfl⟩
    · exact .inl ⟨Store.held_of_books same, Store.archive_of_books same,
        Store.invoices_of_books same⟩
    · obtain ⟨ys, -, -, points, -⟩ := kept.stored
      obtain ⟨outputs, mint, after, response, answered, paid, amounts⟩ := kept.answered
      refine .inr ⟨rfl, kept.invoices, ys, change, outputs, mint, after, response, points, answered,
        paid, amounts, more, fun fresh => ?_⟩
      have traded := kept.traded points fresh
      refine ⟨traded.held_ne fun none => ?_, traded⟩
      rw [none] at more
      exact Nat.not_lt_zero _ more

end Chaumian.Wallet

namespace Chaumian.Sample

open Wallet

/-- What comes of paying with a proof of 4 a mint that signs some change. -/
def payment (change : Nat) : Except (Wallet.Error suite) (Payment suite) × Scene suite Unit :=
  (generous change).perform (pay lightning .default [proof 4 0] "invoice" (.clamp 2)) (scene [4, 8])

set_option maxRecDepth 4000

/-- With change of 2 the payment succeeds: the proof is archived and an invoice of 2 is recorded. -/
theorem payment_with_change : ∃ p, (payment 2).1 = .ok p ∧ p.id = "payment 0" ∧
    World.Traded (scene [4, 8]).wallet.store (payment 2).2.wallet.store [point 0] (some p.id)
      p.change ∧
    ∃ (hash : String) (amount : Amount), lightning.paymentHash? "invoice" = some hash ∧
      Proof.exactTotal p.change + amount.toNat = Proof.exactTotal [proof 4 0] ∧
      (payment 2).2.wallet.store.invoices = Store.put Invoice.id
        ⟨p.id, hash, "invoice", amount, .outgoing, true, p.preimage⟩ [] := by
  obtain ⟨p, ran⟩ := (generous 2).perform_of_isOk
    (pay lightning .default [proof 4 0] "invoice" (.clamp 2)) (scene [4, 8]) (by decide +kernel)
  have fresh : (generous 2).Fresh (scene [4, 8]).drawn (payment 2).2.drawn
      (World.knownPoints (scene [4, 8]).wallet.store [point 0]) :=
    .of_points (by decide +kernel) (by decide +kernel)
  obtain ⟨named, ⟨ys, points, traded⟩, hash, amount, read, sum, stored⟩ :=
    pay_settles_or_fails ran
  have known : (Proof.ys [proof 4 0]).toOption = some [point 0] := by decide +kernel
  rw [points] at known
  cases known
  exact ⟨p, congrArg Prod.fst ran, named, traded fresh, hash, amount, read, sum, stored⟩

/-- With change of 8 it fails, but the proof is gone and the change is there. -/
theorem payment_with_too_much_change : ∃ e, (payment 8).1 = .error e ∧
    ¬((payment 8).2.wallet.store.held = (scene [4, 8]).wallet.store.held ∧
      (payment 8).2.wallet.store.archive = (scene [4, 8]).wallet.store.archive ∧
      (payment 8).2.wallet.store.invoices = (scene [4, 8]).wallet.store.invoices) := by
  obtain ⟨e, failed⟩ := (generous 8).perform_of_not_isOk
    (pay lightning .default [proof 4 0] "invoice" (.clamp 2)) (scene [4, 8]) (by decide +kernel)
  exact ⟨e, congrArg Prod.fst failed, fun same => absurd same.2.1 (by decide +kernel)⟩

end Chaumian.Sample
