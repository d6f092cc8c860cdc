import Chaumian.Proofs.Mint.Change
import Chaumian.Proofs.Wallet.Handover

/-!
# What paying an invoice costs

A wallet before its own mint pays an invoice with proofs that are worth more than its amount. If they
are worth no more than the amount and the reserve for fees together, all of the surplus comes back:
the outputs sent for the change are enough for it, the mint signs each digit of it, and the wallet
makes proofs of that and keeps them. So the wallet pays the amount of the invoice and not more
(`payment_exact`). In particular this is so if it asks the mint what the payment takes, provides
proofs of just that, and pays with these.
-/

namespace Chaumian

/-- Whatever is issued can be read. -/
def Lightning.Reads (lightning : Lightning) : Prop :=
  ∀ amount hash time text, lightning.issue amount hash time = .ok text →
    ∃ hash, lightning.paymentHash? text = some hash

namespace Wallet

variable {S : Suite}

/-- A wallet at rest and an invoice that its mint has issued. What is going to be drawn is new to
both of them, and nothing degenerate comes of it. -/
structure Payer (supply : Supply S) (lightning : Lightning) (x : Scene S (Mint S × Nat))
    (request : String) (quote : IssuedQuote) (draws : Nat) : Prop where
  atRest : x.AtRest
  reads : lightning.Reads
  invoiced : x.mint.1.Invoiced lightning
  quoted : x.mint.1.quoteOf request = .ok quote
  regular : supply.Regular x.mint.1 x.drawn (x.drawn + draws)
  fresh : (supply.world lightning).Fresh x.drawn (x.drawn + draws)
    (x.mint.1.spent ++ x.wallet.store.proofs.map (·.row.y))

namespace World

/-- What a wallet counts as all that it holds. -/
theorem balance_iff {τ : Type} {world : World S τ} {x : Scene S τ} {all : Nat} :
    (world.perform balance x).1.map Amount.toNat = .ok all ↔
      Store.value [.unspent, .reserved] x.wallet.store.held = all ∧ all < 2 ^ 64 := by
  show (x.wallet.total [.unspent, .reserved]).map Amount.toNat = .ok all ↔ _
  rw [total_eq, map_toNat_counted]

/-- So it can count all that it has to give. -/
theorem lt_of_offers {lightning : Lightning} {supply : Supply S} {x : Scene S (Mint S × Nat)}
    {proofs : List (Proof S)} {all : Nat} (offers : x.Offers [.unspent, .reserved] proofs)
    (before : ((supply.world lightning).perform balance x).1.map Amount.toNat = .ok all) :
    Proof.exactTotal proofs < 2 ^ 64 := by
  obtain ⟨ys, accepted, -⟩ := offers.exists_accepts
  obtain ⟨same, below⟩ := balance_iff.1 before
  have value := offers.keyed.value_given offers.held offers.nodup_secrets accepted.points
  omega

variable {supply : Supply S} {lightning : Lightning} {x y : Scene S (Mint S × Nat)}
  {proofs : List (Proof S)} {ys : List S.Point} {request : String} {quote : IssuedQuote}
  {feeReserve total change : Amount}

section

variable {G : Type} [AddCommGroup G] (laws : S.Laws G)

include laws

/-! ## Paying -/

/-- With outputs for the whole reserve, the mint signs all that is left over. -/
theorem yields_melt (complete : x.mint.1.Complete) {k : Keyset S}
    (published : x.mint.1.keyset k.id = .ok k) {blank : Premint S} {n : Nat}
    (drawn : (supply.world lightning).Draws k.id (Premint.blankAmounts feeReserve) n blank.items)
    (regular : supply.Regular x.mint.1 n (n + Premint.blankCount feeReserve))
    (found : x.mint.1.quoteOf request = .ok quote) (accepted : x.mint.1.Accepts proofs ys)
    (counted : Proof.total proofs = .ok total) (left : total.sub? quote.amount = some change)
    (within : change.toNat ≤ feeReserve.toNat) :
    (supply.world lightning).Yields
      (Operation.askMint (.melt ⟨proofs, request, blank.outputs⟩)) x
      fun (response : MeltResponse S) z => ∃ i,
        z = { x with mint := ({ x.mint.1 with spent := x.mint.1.spent ++ ys }, i) } ∧
        x.mint.1.Melts ⟨proofs, request, blank.outputs⟩ response quote ys z.mint.1 ∧
        Amount.exactSum (response.change.map (·.amount)) = change.toNat := by
  obtain ⟨parts, decomposed⟩ := Denominations.exists_decompose (d := .all) rfl change
  have count := Premint.length_blankAmounts feeReserve
  have room : parts.length ≤ blank.outputs.length := by
    rw [Premint.outputs, List.length_map, drawn.length, count]
    exact Premint.length_le_blankCount decomposed within
  have own (o : Output S) (mem : o ∈ blank.outputs) : o.keysetId = k.id ∧
      ∀ call i, x.mint.1.Proves ((supply.source call).nonces i) o.blinded := by
    obtain ⟨item, there, rfl⟩ := List.mem_map.1 mem
    obtain ⟨-, i, low, high, hidden⟩ := drawn.exists_draw there
    exact ⟨(drawn.own there).1, regular.proves i low (count ▸ high) _ hidden⟩
  let sent : MeltRequest S := ⟨proofs, request, blank.outputs⟩
  have named : ∀ o ∈ sent.outputs, o.keysetId = k.id := fun o mem => (own o mem).1
  refine yields_ask fun call => ?_
  obtain ⟨response, melted, amounts⟩ := complete.exists_melt laws published found accepted counted
    left decomposed room named fun o mem => (own o mem).2 call
  refine ⟨response, _, congrArg (Mint.settle x.mint.1) melted, fun i => ⟨i, rfl, ?_, ?_⟩⟩
  · obtain ⟨quote', ys', granted⟩ := Mint.melt_eq_ok melted
    cases found.symm.trans granted.found
    cases accepted.points.symm.trans granted.accepted.points
    exact granted
  · rw [amounts]
    exact Denominations.exactSum_decompose decomposed

/-- Proofs that the mint accepts pay an invoice, and what they are worth more than its amount comes
back if it is within the reserve. -/
theorem yields_pay (atRest : x.AtRest) (settings : Settings) {hash : String} (some : proofs ≠ [])
    (read : lightning.paymentHash? request = .some hash)
    (found : x.mint.1.quoteOf request = .ok quote) (accepted : x.mint.1.Accepts proofs ys)
    (counted : Proof.total proofs = .ok total) (left : total.sub? quote.amount = .some change)
    (within : change.toNat ≤ feeReserve.toNat)
    (regular : supply.Regular x.mint.1 x.drawn (x.drawn + Premint.blankCount feeReserve))
    (fresh : (supply.world lightning).Fresh x.drawn (x.drawn + Premint.blankCount feeReserve)
      (knownPoints x.wallet.store ys)) :
    (supply.world lightning).Yields (pay lightning settings proofs request feeReserve) x
      fun payment y => Proof.exactTotal payment.change = change.toNat ∧
        y.drawn = x.drawn + Premint.blankCount feeReserve := by
  have unrepeated := Proof.hasRepeated_eq_false.2
    (Proof.nodup_secrets_of_ys accepted.points accepted.distinct)
  have count := Premint.length_blankAmounts feeReserve
  unfold pay
  refine .guard (fun none => absurd none some) fun _ => ?_
  refine .guard (fun repeated => ?_) fun _ => ?_
  · rw [unrepeated] at repeated
    cases repeated
  rw [read]
  refine .seq (.known (mapError_eq_ok.2 counted) ?_)
  refine .seq (.known (mapError_eq_ok.2 accepted.points) ?_)
  refine .claimed (fun refused => ?_) ?_
  · rw [Memory.claim_of_idle atRest.idle] at refused
    cases refused
  have claimed := Scene.Calm.withMemory x (x.wallet.memory.claim ys).2
  refine .bind (yields_currentKeyset (claimed.faces atRest.toFaces) atRest.complete) ?_
  rintro k y ⟨calm, here, -⟩
  have calm := claimed.trans calm
  have unused : y.drawn = x.drawn := calm.drawn
  have mint : y.mint.1 = x.mint.1 := calm.mint
  rw [← mint] at found accepted regular
  rw [← unused] at regular
  have hidden (i : Nat) (low : y.drawn ≤ i)
      (high : i < y.drawn + (Premint.blankAmounts feeReserve).length) :=
    regular.hidden i low (count ▸ high)
  refine .bind ((ends_premint k.id _ y).sure (yields_premint k.id _ y hidden)) ?_
  rintro blank _ ⟨⟨-, drawn, rfl⟩, -⟩
  let asked : Scene S (Mint S × Nat) :=
    ⟨y.wallet, y.mint, y.drawn + (Premint.blankAmounts feeReserve).length, y.named + 1⟩
  have complete : asked.mint.1.Complete :=
    atRest.complete.of_keysets (congrArg Mint.keysets mint)
  refine .seq (.freshMeltId (.bind (yields_melt laws complete here.published drawn regular found
    accepted counted left within) ?_))
  rintro response _ ⟨i, rfl, granted, worth⟩
  obtain ⟨parts, signed⟩ := granted.signed
  have less : Amount.exactSum (response.change.map (·.amount)) ≤ total.toNat := by
    rw [worth, (Amount.toNat_of_sub? left).2]
    exact Nat.sub_le _ _
  let told : Scene S (Mint S × Nat) :=
    { asked with mint := ({ y.mint.1 with spent := y.mint.1.spent ++ ys }, i) }
  have stored : told.wallet.store.keyset? k.id = .some k := here.stored
  refine (ends_takeChange laws (mint.symm ▸ atRest.sound) settings here.published stored
    (fun item mem => drawn.own mem) granted.paid (forall₂_take_of_zip signed) less hash request _
    ys).mono ?_ ?_
  · rintro payment _ ⟨amounts, -, rows, store, invoice, -, rfl⟩
    refine ⟨?_, ?_⟩
    · rw [Proof.exactTotal, amounts]
      exact worth
    · show y.drawn + (Premint.blankAmounts feeReserve).length = _
      rw [unused, count]
  · -- The points of the new secrets are in no archive.
    rintro e _ ⟨-, change, rows, e', secrets, length, rowPoints, failed⟩
    obtain ⟨fits, secrets⟩ := drawn.take length secrets
    have updated := fresh.update (Nat.add_le_add_left (count ▸ fits) _) (unused ▸ secrets) rowPoints
      calm.books (.some ((supply.world lightning).meltId y.named))
    cases updated.symm.trans failed

end

/-! ## What is prepared and what is recorded -/

/-- What providing proofs does to the invoices of a wallet: nothing. -/
theorem Provided.invoices {τ : Type} {world : World S τ} {x y : Scene S τ}
    {available : List (Proof S)} {amount : Amount} {aside : Bool}
    {parts : List (Proof S) × List (Proof S)}
    (h : world.Provided available amount aside x parts y) :
    y.wallet.store.invoices = x.wallet.store.invoices := by
  have reserving {store after : Store S} {ys : List S.Point}
      (books : store.books = x.wallet.store.books) (reserved : store.reserve ys = .ok after) :
      after.invoices = x.wallet.store.invoices := by
    have same := Store.invoices_of_books books
    rw [(Store.reserve_eq_ok reserved).2]
    exact same
  cases h with
  | whole chosen exact canonical unused kept =>
    cases aside with
    | true =>
      obtain ⟨ys, store, -, books, reserved⟩ := kept
      exact reserving books reserved
    | false => exact Store.invoices_of_books kept
  | exchanged chosen points books reserved unused made =>
    obtain ⟨_, _, _, store, -, -, -, same, stored⟩ := made.stored
    rw [Store.invoices_of_update stored, Store.invoices_of_books same]
    exact reserving books reserved

/-- The mint asks for the amount of the invoice and the reserve. -/
theorem yields_payQuote (found : x.mint.1.quoteOf request = .ok quote)
    (fits : quote.amount.toNat + (Mint.feeReserve quote.amount).toNat < 2 ^ 64) :
    (supply.world lightning).Yields (payQuote request) x fun costs y =>
      costs.1.toNat = quote.amount.toNat + (Mint.feeReserve quote.amount).toNat ∧
        costs.2 = Mint.feeReserve quote.amount ∧ ∃ n, y = { x with mint := (x.mint.1, n) } := by
  have quoted : x.mint.1.meltQuote ⟨request⟩ =
      .ok ⟨quote.amount, Mint.feeReserve quote.amount⟩ := bind_eq_ok.2 ⟨quote, found, rfl⟩
  refine .seq (yields_ask fun _ => ⟨_, x.mint.1, congrArg (·, x.mint.1) quoted, fun n => ?_⟩)
  have added : quote.amount.add? (Mint.feeReserve quote.amount) = some ⟨_, fits⟩ := dif_pos fits
  dsimp only
  rw [added]
  exact .pure ⟨rfl, rfl, n, rfl⟩

/-- What a payment has come to that costs the amount of an invoice: of what was given in excess of
it, all has come back, the wallet has that amount less, and an invoice of it is recorded. -/
structure Paid (lightning : Lightning) (world : World S (Mint S × Nat))
    (x : Scene S (Mint S × Nat)) (request : String) (amount : Amount) (excess : Nat)
    (payment : Payment S) (y : Scene S (Mint S × Nat)) : Prop where
  paid : payment.paid = true
  change : Proof.exactTotal payment.change = excess
  cost : ∃ all rest, (world.perform balance x).1.map Amount.toNat = .ok all ∧
    (world.perform balance y).1.map Amount.toNat = .ok rest ∧ rest + amount.toNat = all
  recorded : ∃ hash, lightning.paymentHash? request = some hash ∧
    y.wallet.store.invoices = Store.put Invoice.id
      ⟨payment.id, hash, request, amount, .outgoing, true, payment.preimage⟩
      x.wallet.store.invoices

/-- It makes no difference what has happened before if the balance and the invoices are the same. -/
theorem Paid.of_same {world : World S (Mint S × Nat)} {z : Scene S (Mint S × Nat)}
    {amount : Amount} {excess : Nat} {payment : Payment S}
    (h : Paid lightning world z request amount excess payment y)
    (balances : (world.perform balance z).1 = (world.perform balance x).1)
    (invoices : z.wallet.store.invoices = x.wallet.store.invoices) :
    Paid lightning world x request amount excess payment y :=
  ⟨h.paid, h.change, balances ▸ h.cost, invoices ▸ h.recorded⟩

end World

namespace Payer

variable {supply : Supply S} {lightning : Lightning} {x y : Scene S (Mint S × Nat)}
  {proofs : List (Proof S)} {request : String} {quote : IssuedQuote} {feeReserve : Amount}

/-- Proofs can be provided first. -/
theorem of_handed {draws : Nat}
    (payer : Payer supply lightning x request quote (splitDraws + draws))
    (handed : World.Handed (supply.world lightning) x proofs y) :
    Payer supply lightning y request quote draws := by
  have later := handed.drawn
  have room : y.drawn + draws ≤ x.drawn + (splitDraws + draws) := by omega
  obtain ⟨zs, own, taken⟩ := handed.taken
  refine ⟨handed.atRest, payer.reads, ?_, ?_,
    payer.regular.mono handed.follows.keysets handed.later room,
    (payer.fresh.after handed.later fun z mem => ?_).of_le room⟩
  · exact payer.invoiced.of_quotes (by rw [taken]) (by rw [taken])
  · rw [Mint.quoteOf_of_quotes (m := x.mint.1) (by rw [taken]) (by rw [taken])]
    exact payer.quoted
  · rw [taken, List.append_assoc] at mem
    rcases List.mem_append.1 mem with spent | mem
    · exact .inl (List.mem_append_left _ spent)
    · rcases List.mem_append.1 mem with given | mem
      · exact .inl (List.mem_append_right _ (own z given))
      · exact (handed.rows z mem).imp_left (List.mem_append_right _)

variable {G : Type} [AddCommGroup G] (laws : S.Laws G)

include laws

theorem exists_pay (payer : Payer supply lightning x request quote (Premint.blankCount feeReserve))
    (settings : Settings) {excess all : Nat} (offers : x.Offers [.unspent, .reserved] proofs)
    (worth : Proof.exactTotal proofs = quote.amount.toNat + excess)
    (within : excess ≤ feeReserve.toNat)
    (before : ((supply.world lightning).perform balance x).1.map Amount.toNat = .ok all) :
    ∃ payment y, (supply.world lightning).perform
        (pay lightning settings proofs request feeReserve) x = (.ok payment, y) ∧
      World.Paid lightning (supply.world lightning) x request quote.amount excess payment y := by
  obtain ⟨positive, amount, hash, time, issued⟩ := payer.invoiced.of_quoteOf payer.quoted
  obtain ⟨hash, read⟩ := payer.reads _ _ _ _ issued
  obtain ⟨ys, accepted, -⟩ := offers.exists_accepts
  have fits := World.lt_of_offers offers before
  have covered : quote.amount.toNat ≤ Proof.exactTotal proofs := by omega
  have some : proofs ≠ [] := by
    rintro rfl
    exact absurd positive (Nat.not_lt.2 covered)
  have left : Amount.sub? ⟨Proof.exactTotal proofs, fits⟩ quote.amount =
      .some ⟨Proof.exactTotal proofs - quote.amount.toNat,
        Nat.lt_of_le_of_lt (Nat.sub_le _ _) fits⟩ := if_pos covered
  have fresh := (payer.fresh.mono fun z => List.mem_append_right _).of_holds
    (fun p mem => (offers.held p mem).imp fun _ h => h.2) accepted.points
  have pays := World.yields_pay laws payer.atRest settings some read payer.quoted accepted
    (Proof.total_of_lt fits) left (by dsimp only; omega) payer.regular fresh
  obtain ⟨payment, y, ran, ⟨taken, kept, -, paid, total, amount, hash', counted, sum, read', stored⟩,
    change, drawn⟩ := ((World.ends_pay ..).sure pays).exists_perform
  cases read.symm.trans read'
  have back : Proof.exactTotal payment.change = excess := by
    rw [change]
    dsimp only
    omega
  have given := Proof.exactTotal_of_total counted
  have amount_eq : amount = quote.amount := Amount.ext (by omega)
  refine ⟨payment, y, ran, paid, back, ?_, hash, read, ?_⟩
  · -- The rows of the proofs given have been replaced by those of the change.
    obtain ⟨rows, made, -, held⟩ := (kept.traded accepted.points (drawn ▸ fresh)).held
    have after : Store.value [.unspent, .reserved] y.wallet.store.held =
        Store.value [.unspent, .reserved] (x.wallet.store.held.filter (·.y ∉ ys)) + excess := by
      rw [stored]
      show Store.value _ taken.held = _
      rw [held, Store.value_append, (Store.Rows.of_ofProofs made).value, back]
      rfl
    have value := offers.keyed.value_given offers.held offers.nodup_secrets accepted.points
    obtain ⟨same, below⟩ := World.balance_iff.1 before
    exact ⟨all, _, before, World.balance_iff.2 ⟨after, by omega⟩, by omega⟩
  · rw [stored, Store.addInvoice, kept.invoices, amount_eq]

/-- Proofs of an amount are provided out of those that are free to be spent, and can be given. The
balance and the invoices stay as they are. -/
theorem exists_provided {draws : Nat}
    (payer : Payer supply lightning x request quote (splitDraws + draws)) (settings : Settings)
    (aside : Bool) (offers : x.Offers [.unspent] proofs) {free amount : Amount}
    (some : amount ≠ .zero) (counted : Proof.total proofs = .ok free)
    (within : amount.toNat ≤ free.toNat) :
    ∃ parts y, (supply.world lightning).perform (splitToSend settings proofs amount aside) x =
        (.ok parts, y) ∧
      Payer supply lightning y request quote draws ∧ y.Offers [.unspent, .reserved] parts.2 ∧
      Proof.exactTotal parts.2 = amount.toNat ∧
      ((supply.world lightning).perform balance y).1 =
        ((supply.world lightning).perform balance x).1 ∧
      y.wallet.store.invoices = x.wallet.store.invoices := by
  have room : x.drawn + splitDraws ≤ x.drawn + (splitDraws + draws) := by omega
  have sends : (supply.world lightning).Yields (splitToSend settings proofs amount aside) x _ :=
    World.yields_splitToSend laws payer.atRest settings offers some counted within
      (payer.regular.mono rfl (Nat.le_refl _) room) (payer.fresh.of_le room)
  obtain ⟨parts, y, ran, ⟨-, made⟩, handed⟩ :=
    ((World.ends_splitToSend settings proofs amount aside x offers.keyed).sure
      sends).exists_perform
  have fresh := (payer.fresh.of_le (handed.drawn.trans room)).mono
    fun z => List.mem_append_right x.mint.1.spent
  have holds (p : Proof S) := offers.holds (p := p)
  obtain ⟨selected, -, replaced, -⟩ :=
    made.replaced some offers.keyed holds offers.nodup_secrets fresh
  have values := made.value some offers.keyed holds offers.nodup_secrets fresh
    [.unspent, .reserved]
  have same : Store.value [.unspent, .reserved] y.wallet.store.held =
      Store.value [.unspent, .reserved] x.wallet.store.held := by
    cases aside <;> exact Nat.add_right_cancel values
  refine ⟨parts, y, ran, payer.of_handed handed, ?_, made.exactTotal, ?_, made.invoices⟩
  · exact handed.offers (by cases aside <;> decide) fun p => replaced.send
  · show y.wallet.total _ = x.wallet.total _
    rw [total_eq, total_eq, same]

/-- Proofs of what the payment takes are provided, and pay. -/
theorem exists_flow
    (payer : Payer supply lightning x request quote
      (splitDraws + Premint.blankCount (Mint.feeReserve quote.amount)))
    (settings : Settings) (aside : Bool) {available : List (Proof S)} {all : Nat}
    (offers : x.Offers [.unspent] available)
    (enough : quote.amount.toNat + (Mint.feeReserve quote.amount).toNat ≤
      Proof.exactTotal available)
    (before : ((supply.world lightning).perform balance x).1.map Amount.toNat = .ok all) :
    ∃ (total : Amount) (parts : List (Proof S) × List (Proof S)) (payment : Payment S)
        (asked provided y : Scene S (Mint S × Nat)),
      (supply.world lightning).perform (payQuote request) x =
        (.ok (total, Mint.feeReserve quote.amount), asked) ∧
      (supply.world lightning).perform (splitToSend settings available total aside) asked =
        (.ok parts, provided) ∧
      (supply.world lightning).perform
        (pay lightning settings parts.2 request (Mint.feeReserve quote.amount)) provided =
          (.ok payment, y) ∧
      World.Paid lightning (supply.world lightning) x request quote.amount
        (Mint.feeReserve quote.amount).toNat payment y := by
  obtain ⟨positive, -⟩ := payer.invoiced.of_quoteOf payer.quoted
  have fits := World.lt_of_offers (offers.of_states (by decide)) before
  have quotes : (supply.world lightning).Yields (payQuote request) x _ :=
    World.yields_payQuote payer.quoted (enough.trans_lt fits)
  obtain ⟨⟨total, _⟩, _, quoted, takes, rfl, n, rfl⟩ := quotes.exists_perform
  dsimp only at takes
  have some : total ≠ .zero := by
    rintro rfl
    have nothing : Amount.zero.toNat = 0 := rfl
    omega
  -- The mint has only been asked one thing more.
  have asked : Payer supply lightning { x with mint := (x.mint.1, n) } request quote
      (splitDraws + Premint.blankCount (Mint.feeReserve quote.amount)) :=
    ⟨payer.atRest.later (.refl _) n x.drawn x.named, payer.reads, payer.invoiced, payer.quoted,
      payer.regular, payer.fresh⟩
  have offered : Scene.Offers { x with mint := (x.mint.1, n) } [.unspent] available :=
    ⟨offers.keyed, offers.distinct, offers.held, offers.valid, offers.unspent⟩
  obtain ⟨parts, provided, ran, ready, sent, worth, balances, invoices⟩ :=
    asked.exists_provided laws settings aside offered some (Proof.total_of_lt fits)
      (takes ▸ enough)
  obtain ⟨payment, y, done, paid⟩ := ready.exists_pay laws settings sent (worth.trans takes)
    (Nat.le_refl _) (balances ▸ before)
  exact ⟨total, parts, payment, _, provided, y, quoted, ran, done,
    paid.of_same balances invoices⟩

end Payer

/-- A wallet pays an invoice of its mint exactly what the invoice is for. Whatever the reserve, and
whatever different proofs of its own it gives that are valid and not taken: if they are worth the
amount and an excess that is within the reserve, then the payment succeeds, the change is worth that
excess, the balance has gone down by the amount, and an outgoing invoice of the amount is recorded.
If the wallet asks what the payment takes, provides proofs of that out of any that are free to be
spent and worth enough, and pays with those, all three succeed, and it costs the same. -/
theorem payment_exact {G : Type} [AddCommGroup G] (laws : S.Laws G) {supply : Supply S}
    {lightning : Lightning} {x : Scene S (Mint S × Nat)} {request : String} {quote : IssuedQuote}
    (settings : Settings) {all : Nat}
    (before : ((supply.world lightning).perform balance x).1.map Amount.toNat = .ok all) :
    (∀ (feeReserve : Amount) (excess : Nat) (proofs : List (Proof S)),
      Payer supply lightning x request quote (Premint.blankCount feeReserve) →
      x.Offers [.unspent, .reserved] proofs →
      Proof.exactTotal proofs = quote.amount.toNat + excess → excess ≤ feeReserve.toNat →
      ∃ payment y, (supply.world lightning).perform
          (pay lightning settings proofs request feeReserve) x = (.ok payment, y) ∧
        World.Paid lightning (supply.world lightning) x request quote.amount excess payment y) ∧
    ∀ (available : List (Proof S)) (aside : Bool),
      Payer supply lightning x request quote
        (splitDraws + Premint.blankCount (Mint.feeReserve quote.amount)) →
      x.Offers [.unspent] available →
      quote.amount.toNat + (Mint.feeReserve quote.amount).toNat ≤ Proof.exactTotal available →
      ∃ (total : Amount) (parts : List (Proof S) × List (Proof S)) (payment : Payment S)
          (asked provided y : Scene S (Mint S × Nat)),
        (supply.world lightning).perform (payQuote request) x =
          (.ok (total, Mint.feeReserve quote.amount), asked) ∧
        (supply.world lightning).perform (splitToSend settings available total aside) asked =
          (.ok parts, provided) ∧
        (supply.world lightning).perform
          (pay lightning settings parts.2 request (Mint.feeReserve quote.amount)) provided =
            (.ok payment, y) ∧
        World.Paid lightning (supply.world lightning) x request quote.amount
          (Mint.feeReserve quote.amount).toNat payment y :=
  ⟨fun _ _ _ payer offers worth within => payer.exists_pay laws settings offers worth within before,
    fun _ aside payer offers enough => payer.exists_flow laws settings aside offers enough before⟩

end Wallet

end Chaumian

namespace Chaumian.Sample

open Wallet

/-- The mint of the purse, which has issued an invoice of 9. -/
def billing : Mint wide :=
  { wideMint with
    quotes := [⟨"bill", .clamp 9, [], false⟩]
    requests := [("invoice 1", "bill")] }

/-- The wallet with proofs of 4 and 8 before that mint. -/
def billed : Scene wide (Mint wide × Nat) := { purse with mint := (billing, 0) }

theorem payer_billed (laws : wide.Laws (ZMod 65537)) {draws : Nat} (few : draws ≤ 2 * splitDraws) :
    Payer wideSupply clock billed "invoice 1" ⟨"bill", .clamp 9, [], false⟩ draws := by
  have room : 0 + draws ≤ 2 * splitDraws := (Nat.zero_add draws).trans_le few
  refine ⟨?_, fun _ _ _ text _ => ⟨text, rfl⟩, ⟨?_, ?_⟩, rfl,
    (regular_wideSupply laws).mono rfl (Nat.le_refl _) room,
    (fresh_wideSupply (by decide +kernel)).of_le room⟩
  · exact ⟨⟨⟨sound_wideMint.ids, sound_wideMint.amounts⟩, List.forall_mem_nil _⟩,
      complete_wideMint.of_keysets rfl, rfl⟩
  · exact List.forall_mem_singleton.2 (by decide)
  · exact List.forall_mem_singleton.2 ⟨.zero, [], 1, by decide +kernel⟩

theorem offers_billed : billed.Offers [.unspent] [wideProof 4 0, wideProof 8 1] := by
  have listed := Proof.sortByAmount_perm [wideProof 4 0, wideProof 8 1]
  have offers := funded_purse.offers.of_subperm listed.symm.subperm
  exact ⟨offers.keyed, offers.distinct, offers.held,
    fun p mem => (offers.valid p mem).of_keysets rfl, offers.unspent⟩

/-- Both proofs and a reserve of 3 bring 3 back. The wallet may as well exchange its proofs for the
11 that the mint asks for, of which 2 come back. Either way it has 3 left of its 12. -/
theorem payment_billed :
    (∃ payment y, (wideSupply.world clock).perform (pay clock .default
        [wideProof 4 0, wideProof 8 1] "invoice 1" (.clamp 3)) billed = (.ok payment, y) ∧
      World.Paid clock (wideSupply.world clock) billed "invoice 1" (.clamp 9) 3 payment y) ∧
    ∃ (total : Amount) (parts : List (Proof wide) × List (Proof wide)) (payment : Payment wide)
        (asked provided y : Scene wide (Mint wide × Nat)),
      (wideSupply.world clock).perform (payQuote "invoice 1") billed =
        (.ok (total, .clamp 2), asked) ∧
      (wideSupply.world clock).perform (splitToSend .default [wideProof 4 0, wideProof 8 1] total
        true) asked = (.ok parts, provided) ∧
      (wideSupply.world clock).perform (pay clock .default parts.2 "invoice 1" (.clamp 2))
        provided = (.ok payment, y) ∧
      World.Paid clock (wideSupply.world clock) billed "invoice 1" (.clamp 9) 2 payment y := by
  have laws : wide.Laws (ZMod 65537) := by
    have : Fact (Nat.Prime 65537) := ⟨by norm_num⟩
    exact (Suite.lawsOfScalars (by decide)).recoded _ _ _
  have before : ((wideSupply.world clock).perform balance billed).1.map Amount.toNat = .ok 12 :=
    World.balance_iff.2 (by decide +kernel)
  have more : [ProofStatus.unspent] ⊆ [.unspent, .reserved] := by decide
  refine ⟨?_, ?_⟩
  · exact (payment_exact laws .default before).1 (.clamp 3) 3 _ (payer_billed laws (by decide))
      (offers_billed.of_states more) (by decide +kernel) (by decide)
  · exact (payment_exact laws .default before).2 _ true (payer_billed laws (by decide))
      offers_billed (by decide +kernel)

end Chaumian.Sample
