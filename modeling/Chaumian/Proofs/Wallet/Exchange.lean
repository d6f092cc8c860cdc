import Chaumian.Proofs.Wallet.Registry
import Chaumian.Wallet.Split

/-!
# New proofs from a mint that may answer anything

`ends_splitInto` and `ends_mintProofs` say what an exchange and the minting of an invoice come to.
If they fail the books are as before. If they succeed, the new proofs are of the amounts that were
asked for and have the secrets that were drawn for them, and the books have been changed in one step
of the store.
-/

namespace Chaumian.Wallet

variable {S : Suite} {τ α β : Type}

theorem checkPromises_eq_ok {promises : List (Promise S)} {expected : List Amount} :
    checkPromises promises expected = .ok () ↔ promises.map (·.amount) = expected := by
  unfold checkPromises
  by_cases length : promises.length = expected.length
  · -- Both lists are read off the pairs that are compared.
    have same : promises.map (·.amount) = expected ↔
        ∀ pair ∈ promises.zip expected, pair.1.amount = pair.2 := by
      have first : promises.map (·.amount) =
          ((promises.zip expected).map Prod.fst).map (·.amount) := by
        rw [List.map_fst_zip (Nat.le_of_eq length)]
      have second : (promises.zip expected).map Prod.snd = expected :=
        List.map_snd_zip (Nat.le_of_eq length.symm)
      rw [first, List.map_map, ← List.map_inj_left, second]
      rfl
    rw [if_neg (not_not.2 length), same]
    constructor
    · intro h pair mem
      split at h
      · cases h
      · rename_i none
        simpa using List.find?_eq_none.1 none pair mem
    · intro same
      split
      · rename_i found
        have equal := same _ (List.mem_of_find?_eq_some found)
        exact absurd equal (by simpa using List.find?_some found)
      · rfl
  · rw [if_pos length]
    constructor
    · intro h
      cases h
    · intro same
      rw [← same, List.length_map] at length
      exact absurd rfl length

namespace World

variable {world : World S τ} {x : Scene S τ}

theorem outputs_request (p : PreparedSplit S) :
    p.request.outputs = (p.keep.items ++ p.send.items).map (·.output) := by
  rw [PreparedSplit.request, Premint.outputs, Premint.outputs, List.map_append]

theorem amounts_request (p : PreparedSplit S) :
    p.request.outputs.map (·.amount) = p.keep.amounts ++ p.send.amounts := by
  rw [outputs_request, List.map_map, List.map_append]
  rfl

/-- What has been prepared for an exchange of proofs: outputs for the amount and for what is left
of the proofs, with new secrets. -/
structure Prepared (world : World S τ) (proofs : List (Proof S)) (amount : Amount) (x : Scene S τ)
    (p : PreparedSplit S) (y : Scene S τ) : Prop where
  inputs : p.inputs = proofs
  amounts : ∃ (d : Denominations) (total rest : Amount), Proof.total proofs = .ok total ∧
    total.sub? amount = some rest ∧ d.decompose rest = .ok p.keep.amounts ∧
    d.decompose amount = .ok p.send.amounts
  keep : world.Draws p.keep.keysetId p.keep.amounts x.drawn p.keep.items
  send : world.Draws p.keep.keysetId p.send.amounts (x.drawn + p.keep.size) p.send.items
  drawn : y.drawn = x.drawn + (p.keep.size + p.send.size)
  books : y.wallet.store.books = x.wallet.store.books

theorem ends_premintFor (id : KeysetId) (d : Denominations) (amount : Amount) (x : Scene S τ) :
    world.Ends (Operation.premintFor id d amount) x
      (fun p y => d.decompose amount = .ok p.amounts ∧ p.keysetId = id ∧
        world.Draws id p.amounts x.drawn p.items ∧ y = { x with drawn := x.drawn + p.size })
      (fun _ y => ∃ n, y = { x with drawn := x.drawn + n }) := by
  refine .seq (.lift (fun amounts decomposed => ?_) fun _ _ => ⟨0, rfl⟩)
  refine (ends_premint id amounts x).mono ?_ ?_
  · rintro p y ⟨keyset, drawn, rfl⟩
    have amounts_eq : p.amounts = amounts := drawn.map_amount
    rw [amounts_eq, Premint.size, drawn.length]
    exact ⟨mapError_eq_ok.1 decomposed, keyset, drawn, rfl⟩
  · exact fun _ _ drawn => drawn

theorem ends_prepareSplit (settings : Settings) (proofs : List (Proof S)) (amount : Amount)
    (x : Scene S τ) :
    world.Ends (prepareSplit settings proofs amount) x (world.Prepared proofs amount x)
      (fun _ y => y.wallet.store.books = x.wallet.store.books) := by
  refine .within Quiet.registers.currentKeyset (fun _ _ same => same.books) fun keyset x₁ same => ?_
  refine .within (.denominations settings)
    (fun _ _ (next : x₁.Undisturbed _) => (same.trans next).books) fun d x₂ next => ?_
  have same := same.trans next
  refine .seq (.lift (fun total counted => ?_) fun _ _ => same.books)
  rcases left : total.sub? amount with _ | rest
  · exact .throw same.books
  · refine .seq ((ends_premintFor keyset.id d rest x₂).mono ?_
      fun _ _ ⟨_, drawn⟩ => drawn ▸ same.books)
    rintro keep _ ⟨keepAmounts, id, keepDrawn, rfl⟩
    rw [← id] at keepDrawn ⊢
    refine .seq ((ends_premintFor keep.keysetId d amount _).mono ?_
      fun _ _ ⟨_, drawn⟩ => drawn ▸ same.books)
    rintro send y ⟨sendAmounts, -, sendDrawn, rfl⟩
    rw [same.drawn] at keepDrawn
    rw [same.drawn] at sendDrawn
    refine .pure ⟨rfl, ⟨d, total, rest, mapError_eq_ok.1 counted, left, keepAmounts, sendAmounts⟩,
      keepDrawn, sendDrawn, ?_, same.books⟩
    rw [← Nat.add_assoc, ← same.drawn]

theorem Prepared.secrets {proofs : List (Proof S)} {amount : Amount} {p : PreparedSplit S}
    {y : Scene S τ} (h : world.Prepared proofs amount x p y) :
    p.keep.secrets ++ p.send.secrets =
      (List.range' x.drawn (p.keep.size + p.send.size)).map world.secret := by
  rw [Premint.secrets, Premint.secrets, h.keep.map_secret, h.send.map_secret, ← List.map_append,
    ← List.range'_append_1]
  rfl

/-- The outputs are one's own, under the keyset that was current. -/
theorem Prepared.own {proofs : List (Proof S)} {amount : Amount} {p : PreparedSplit S}
    {y : Scene S τ} (h : world.Prepared proofs amount x p y) {item : PremintItem S}
    (mem : item ∈ p.keep.items ++ p.send.items) : item.output.keysetId = p.keep.keysetId ∧
      Blind.blind S item.secret.toBytes item.factor = .ok item.output.blinded :=
  (List.mem_append.1 mem).elim h.keep.own h.send.own

/-- The proofs of promises for what has been prepared. -/
theorem Prepared.made {proofs keep send : List (Proof S)} {amount : Amount} {p : PreparedSplit S}
    {y : Scene S τ} (h : world.Prepared proofs amount x p y) {promises : List (Promise S)}
    {keys : Keys S} {checked : Bool}
    (promised : promises.map (·.amount) = p.keep.amounts ++ p.send.amounts)
    (keepMade : p.keep.proofs (promises.take p.keep.size) keys checked = .ok keep)
    (sendMade : p.send.proofs (promises.drop p.keep.size) keys checked = .ok send) :
    keep.map (·.amount) = p.keep.amounts ∧ send.map (·.amount) = p.send.amounts ∧
      (keep ++ send).length = p.keep.size + p.send.size ∧
      (keep ++ send).map (·.secret) =
        (List.range' x.drawn (keep ++ send).length).map world.secret := by
  have secrets : (keep ++ send).map (·.secret) = p.keep.secrets ++ p.send.secrets := by
    rw [List.map_append, Premint.secrets_of_proofs keepMade, Premint.secrets_of_proofs sendMade]
  have length : (keep ++ send).length = p.keep.size + p.send.size := by
    rw [← List.length_map (·.secret), secrets, List.length_append, Premint.length_secrets,
      Premint.length_secrets]
  refine ⟨?_, ?_, length, ?_⟩
  · rw [Premint.amounts_of_proofs keepMade, List.map_take, promised,
      List.take_left' p.keep.length_amounts]
  · rw [Premint.amounts_of_proofs sendMade, List.map_drop, promised,
      List.drop_left' p.keep.length_amounts]
  · rw [secrets, h.secrets, length]

/-! ## Exchanging proofs -/

/-- What an exchange of proofs has come to when it succeeds. -/
structure Exchanged (world : World S τ) (status : ProofStatus) (proofs : List (Proof S))
    (amount : Amount) (x : Scene S τ) (parts : List (Proof S) × List (Proof S)) (y : Scene S τ) :
    Prop where
  positive : amount ≠ .zero
  amounts : ∃ (d : Denominations) (total rest : Amount), Proof.total proofs = .ok total ∧
    total.sub? amount = some rest ∧ d.decompose rest = .ok (parts.1.map (·.amount)) ∧
    d.decompose amount = .ok (parts.2.map (·.amount))
  secrets : (parts.1 ++ parts.2).map (·.secret) =
    (List.range' x.drawn (parts.1 ++ parts.2).length).map world.secret
  drawn : y.drawn = x.drawn + (parts.1 ++ parts.2).length
  stored : ∃ (ys : List S.Point) (kept sent : List (ProofRow S)) (store : Store S),
    Proof.ys proofs = .ok ys ∧ ProofRow.ofProofs parts.1 .unspent none = .ok kept ∧
    ProofRow.ofProofs parts.2 status none = .ok sent ∧
    store.books = x.wallet.store.books ∧
    store.update (kept ++ sent) ys none = .ok y.wallet.store

theorem ends_splitInto (settings : Settings) (status : ProofStatus) (proofs : List (Proof S))
    (amount : Amount) (x : Scene S τ) :
    world.Ends (splitInto settings status proofs amount) x
      (world.Exchanged status proofs amount x)
      (fun _ y => y.wallet.store.books = x.wallet.store.books) := by
  unfold splitInto
  refine .guard (fun _ => rfl) fun positive => ?_
  refine .guard (fun _ => rfl) fun distinct => ?_
  refine .seq (.lift (fun total counted => ?_) fun _ _ => rfl)
  refine .guard (fun _ => rfl) fun _ => ?_
  refine .seq (.lift (fun ys points => ?_) fun _ _ => rfl)
  refine .claiming rfl ?_
  refine .seq ((ends_prepareSplit settings proofs amount _).mono ?_ fun _ _ h => h)
  intro prepared x₁ ready
  refine .within (Quiet.askMint _) (fun _ _ same => same.books.trans ready.books)
    fun response x₂ same => ?_
  -- Up to the update at the end only keysets are added to the store.
  have books := same.books.trans ready.books
  refine .seq (.lift (fun _ checked => ?_) fun _ _ => books)
  refine .within (Quiet.registers.fetchKeysOf _) (fun _ _ same => same.books.trans books)
    fun keyset x₃ fetched => ?_
  have books := fetched.books.trans books
  refine .seq (.lift (fun keep keepMade => ?_) fun _ _ => books)
  refine .seq (.lift (fun send sendMade => ?_) fun _ _ => books)
  refine .seq (.lift (fun kept keepRows => ?_) fun _ _ => books)
  refine .seq (.lift (fun sent sendRows => ?_) fun _ _ => books)
  refine .seq (ends_update (fun store stored => .pure ?_) fun _ _ => books)
  obtain ⟨keepAmounts, sendAmounts, length, secrets⟩ := ready.made (checkPromises_eq_ok.1 checked)
    (mapError_eq_ok.1 keepMade) (mapError_eq_ok.1 sendMade)
  have drawn := fetched.drawn.trans (same.drawn.trans ready.drawn)
  refine ⟨positive, ?_, ?_, ?_, ys, kept, sent, x₃.wallet.store, mapError_eq_ok.1 points,
    mapError_eq_ok.1 keepRows, mapError_eq_ok.1 sendRows, books, stored⟩
  · rw [keepAmounts, sendAmounts]
    exact ready.amounts
  · exact secrets
  · rw [length]
    exact drawn

/-! ## Minting the proofs of an invoice -/

/-- What minting has come to when it succeeds. -/
structure Minted (world : World S τ) (amount : Amount) (parts : Option (List Amount))
    (invoiceId : String) (x : Scene S τ) (proofs : List (Proof S)) (y : Scene S τ) : Prop where
  positive : amount ≠ .zero
  amounts : ∃ d : Denominations, d.plan amount parts = .ok (proofs.map (·.amount))
  secrets : proofs.map (·.secret) = (List.range' x.drawn proofs.length).map world.secret
  drawn : y.drawn = x.drawn + proofs.length
  stored : ∃ (invoice : Invoice) (rows : List (ProofRow S)) (store minted : Store S),
    x.wallet.store.invoice? invoiceId = some invoice ∧
    ProofRow.ofProofs proofs .unspent (some invoiceId) = .ok rows ∧
    store.books = x.wallet.store.books ∧ store.update rows [] none = .ok minted ∧
    y.wallet.store = minted.addInvoice { invoice with settled := true }

/-- What has been checked before a mint is asked for signatures: there is something to mint, for an
invoice that is kept, and the amounts are those planned with the denominations of the keyset that the
wallet takes for current. -/
structure Planned (amount : Amount) (parts : Option (List Amount)) (invoiceId : String)
    (x : Scene S τ) (amounts : List Amount) (y : Scene S τ) : Prop where
  positive : amount ≠ .zero
  invoice : ∃ invoice, x.wallet.store.invoice? invoiceId = some invoice
  known : ∃ k, y.known = some k ∧ k.keys.denominations.plan amount parts = .ok amounts

theorem Planned.of_wallet {amount : Amount} {parts : Option (List Amount)} {invoiceId : String}
    {amounts : List Amount} {y z : Scene S τ} (h : Planned amount parts invoiceId x amounts y)
    (current : z.wallet.memory.current = y.wallet.memory.current)
    (keysets : z.wallet.store.keysets = y.wallet.store.keysets) :
    Planned amount parts invoiceId x amounts z :=
  ⟨h.positive, h.invoice, Scene.known_of_keysets current keysets ▸ h.known⟩

/-- Minting ends before anything is planned, when nothing was done but to look up keysets, or it
comes as far as that, whether it succeeds or fails from there. -/
theorem ends_mintProofs_planned {R : Scene S τ → Scene S τ → Prop} [IsPreorder (Scene S τ) R]
    (registers : world.Registers R) (settings : Settings) (amount : Amount)
    (parts : Option (List Amount)) (invoiceId : String) (x : Scene S τ) :
    world.Ends (mintProofs settings amount parts invoiceId) x
      (fun proofs y => world.Minted amount parts invoiceId x proofs y ∧
        Planned amount parts invoiceId x (proofs.map (·.amount)) y)
      (fun _ y => y.wallet.store.books = x.wallet.store.books ∧
        (R x y ∨ ∃ amounts, Planned amount parts invoiceId x amounts y)) := by
  unfold mintProofs
  refine .guard (fun _ => ⟨rfl, .inl (refl x)⟩) fun positive => ?_
  refine .seq (.askStore (fun found store called => ?_) fun e store called => nomatch called)
  cases called
  rcases invoiced : x.wallet.store.invoice? invoiceId with _ | invoice
  · exact .throw ⟨rfl, .inl (refl x)⟩
  refine .seq ((((Quiet.registers.currentKeyset x).and (registers.currentKeyset x)).and
    (ends_currentKeyset_known x)).mono ?_ fun _ y h => ⟨h.1.1.books, .inl h.1.2⟩)
  rintro keyset x₁ ⟨⟨same, looked⟩, k, known⟩
  refine .seq ((ends_denominations_known settings x₁).mono ?_ fun _ _ h => h.elim)
  rintro d x₁ ⟨rfl, published⟩
  obtain rfl := published k known
  refine .seq (.lift (fun amounts plan => ?_) fun _ _ => ⟨same.books, .inl looked⟩)
  have plan := mapError_eq_ok.1 plan
  -- From here on the wallet takes the same keyset for current.
  have planned : Planned amount parts invoiceId x amounts x₁ :=
    ⟨positive, ⟨invoice, invoiced⟩, k, known, plan⟩
  have stays (y : Scene S τ)
      (current : y.wallet.memory.current = (x₁.wallet.memory.claim []).2.current)
      (keysets : y.wallet.store.keysets = x₁.wallet.store.keysets) :
      Planned amount parts invoiceId x amounts (y.withMemory (y.wallet.memory.release [])) :=
    planned.of_wallet (current.trans (Memory.current_claim _ _)) keysets
  refine .claiming ⟨same.books, .inr ⟨amounts, planned⟩⟩ ?_
  refine .seq ((ends_premint keyset.id amounts _).mono ?_ ?_)
  · rintro outputs _ ⟨-, drawn, rfl⟩
    refine .seq (.askMint (fun response mint _ => ?_) fun _ _ _ =>
      ⟨same.books, .inr ⟨amounts, stays _ rfl rfl⟩⟩)
    refine .seq (.lift (fun _ checked => ?_) fun _ _ =>
      ⟨same.books, .inr ⟨amounts, stays _ rfl rfl⟩⟩)
    refine .seq (.lift (fun proofs made => ?_) fun _ _ =>
      ⟨same.books, .inr ⟨amounts, stays _ rfl rfl⟩⟩)
    refine .seq (.lift (fun rows rowsMade => ?_) fun _ _ =>
      ⟨same.books, .inr ⟨amounts, stays _ rfl rfl⟩⟩)
    -- After the update nothing can fail, as a store that does not take the invoice is put up with.
    refine .seq (ends_update (fun minted stored => .seq (.tryStore (.pure ?_))) fun _ _ =>
      ⟨same.books, .inr ⟨amounts, stays _ rfl rfl⟩⟩)
    have keysets : minted.keysets = x₁.wallet.store.keysets := Store.keysets_of_update stored
    have made := mapError_eq_ok.1 made
    have promised : proofs.map (·.amount) = amounts := by
      rw [Premint.amounts_of_proofs made, checkPromises_eq_ok.1 checked]
      exact drawn.map_amount
    obtain ⟨length, secrets⟩ := drawn.made made
    refine ⟨⟨positive, ⟨k.keys.denominations, ?_⟩, ?_, ?_, invoice, rows, x₁.wallet.store, minted,
      invoiced, mapError_eq_ok.1 rowsMade, same.books, stored, rfl⟩, ?_⟩
    · rw [promised]
      exact plan
    · rw [← same.drawn]
      exact secrets
    · rw [length, ← same.drawn]
      rfl
    · rw [promised]
      exact stays _ rfl keysets
  · rintro e _ ⟨n, rfl⟩
    exact ⟨same.books, .inr ⟨amounts, stays _ rfl rfl⟩⟩

theorem ends_mintProofs (settings : Settings) (amount : Amount) (parts : Option (List Amount))
    (invoiceId : String) (x : Scene S τ) :
    world.Ends (mintProofs settings amount parts invoiceId) x
      (world.Minted amount parts invoiceId x)
      (fun _ y => y.wallet.store.books = x.wallet.store.books) :=
  (ends_mintProofs_planned Quiet.registers settings amount parts invoiceId x).mono
    (fun _ _ h => h.1) fun _ _ h => h.1

end World

end Chaumian.Wallet
