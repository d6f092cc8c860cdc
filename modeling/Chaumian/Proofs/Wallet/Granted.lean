import Chaumian.Proofs.Mint.Granting
import Chaumian.Proofs.Wallet.Fresh
import Chaumian.Proofs.Wallet.OwnMint
import Chaumian.Proofs.Wallet.Payment
import Chaumian.Proofs.Wallet.Transfer

/-!
# What a mint has granted reaches the wallet

Once the mint of one's own has taken proofs or signed for an invoice, nothing that the wallet does
with the answer can fail: the promises are for the amounts that were asked for, the keyset is
stored, the promises can be unblinded and their proofs of equality hold, and the points of new
secrets are in no archive. So an operation either leaves mint and wallet as they were or changes
both.
-/

namespace Chaumian.Wallet

variable {S : Suite}

/-- From one scene to another one neither the mint nor the books have changed, whatever secrets have
been drawn. -/
structure Scene.Idle (x y : Scene S (Mint S × Nat)) : Prop where
  books : y.wallet.store.books = x.wallet.store.books
  mint : y.mint.1 = x.mint.1
  faces : x.Faces → y.Faces
  drawn : x.drawn ≤ y.drawn

namespace Scene

variable {x y z : Scene S (Mint S × Nat)}

theorem Idle.trans (first : x.Idle y) (second : y.Idle z) : x.Idle z where
  books := second.books.trans first.books
  mint := second.mint.trans first.mint
  faces h := second.faces (first.faces h)
  drawn := Nat.le_trans first.drawn second.drawn

instance : IsPreorder (Scene S (Mint S × Nat)) Scene.Idle where
  refl _ := ⟨rfl, rfl, id, Nat.le_refl _⟩
  trans _ _ _ := Scene.Idle.trans

theorem Calm.idle (h : x.Calm y) : x.Idle y :=
  ⟨h.books, h.mint, h.faces, Nat.le_of_eq h.drawn.symm⟩

theorem Idle.withMemory (h : x.Idle y) (memory : Memory S) : x.Idle (y.withMemory memory) :=
  h.trans (Calm.withMemory y memory).idle

theorem Idle.drawing (x : Scene S (Mint S × Nat)) (n : Nat) :
    x.Idle { x with drawn := x.drawn + n } :=
  ⟨rfl, rfl, fun faces => ⟨faces.sound, faces.registered⟩, Nat.le_add_right _ _⟩

theorem Idle.naming (x : Scene S (Mint S × Nat)) (n : Nat) : x.Idle { x with named := n } :=
  ⟨rfl, rfl, fun faces => ⟨faces.sound, faces.registered⟩, Nat.le_refl _⟩

theorem Faces.withMint (faces : x.Faces) {m : Mint S} (same : m.keysets = x.mint.1.keysets)
    (n : Nat) : Scene.Faces { x with mint := (m, n) } := by
  refine ⟨⟨same.symm ▸ faces.sound.ids, same.symm ▸ faces.sound.amounts⟩, fun k mem => ?_⟩
  have published := faces.registered k mem
  unfold Mint.keyset at published ⊢
  rw [same]
  exact published

theorem Faces.withStore (faces : x.Faces) {store : Store S}
    (same : store.keysets = x.wallet.store.keysets) : (x.withStore store).Faces :=
  ⟨faces.sound, fun k mem => faces.registered k (same ▸ mem)⟩

end Scene

namespace World

variable {supply : Supply S} {lightning : Lightning} {x y : Scene S (Mint S × Nat)}

/-- The mint has taken proofs, and those that have been made of what it signed are its own. -/
structure Honoured (x : Scene S (Mint S × Nat)) (given new : List (Proof S))
    (y : Scene S (Mint S × Nat)) : Prop where
  taken : ∃ ys, x.mint.1.Accepts given ys ∧
    y.mint.1 = { x.mint.1 with spent := x.mint.1.spent ++ ys }
  signed : ∀ p ∈ new, x.mint.1.Signed p
  faces : y.Faces

/-- The mint has signed for an invoice, once and for its amount, and the proofs that have been made
of that are its own. -/
structure Issued (x : Scene S (Mint S × Nat)) (id : String) (new : List (Proof S))
    (y : Scene S (Mint S × Nat)) : Prop where
  quoted : ∃ quote, x.mint.1.quote? id = some quote ∧ quote.minted = false ∧
    Proof.exactTotal new = quote.amount.toNat
  marked : y.mint.1 = { x.mint.1 with quotes := x.mint.1.quotes.map fun q =>
    if q.id = id then { q with minted := true } else q }
  signed : ∀ p ∈ new, x.mint.1.Signed p
  faces : y.Faces

/-! ## Exchanging proofs -/

theorem ends_prepareSplit_idle (settings : Settings) (proofs : List (Proof S)) (amount : Amount)
    (x : Scene S (Mint S × Nat)) :
    (supply.world lightning).Ends (prepareSplit settings proofs amount) x
      (fun p y => x.Idle y ∧ (x.Faces → ∃ k, y.Stored k ∧ p.keep.keysetId = k.id))
      (fun _ y => x.Idle y) := by
  refine .seq ((ends_currentKeyset x).mono ?_ fun _ _ calm => calm.idle)
  rintro k y ⟨calm, stored⟩
  refine .seq ((ends_denominations settings y).mono ?_ fun _ _ same => same ▸ calm.idle)
  rintro d _ rfl
  refine .seq (.lift (fun total counted => ?_) fun _ _ => calm.idle)
  rcases total.sub? amount with _ | rest
  · exact .throw calm.idle
  · refine .seq ((ends_premintFor k.id d rest _).mono ?_ fun _ _ ⟨n, drawn⟩ =>
      drawn ▸ calm.idle.trans (.drawing _ n))
    rintro keep _ ⟨-, id, -, rfl⟩
    have idle := calm.idle.trans (.drawing _ keep.size)
    refine .seq ((ends_premintFor k.id d amount _).mono ?_ fun _ _ ⟨n, drawn⟩ =>
      drawn ▸ idle.trans (.drawing _ n))
    rintro send _ ⟨-, -, -, rfl⟩
    refine .pure ⟨idle.trans (.drawing _ send.size), fun faces => ⟨k, ?_, id⟩⟩
    exact ⟨(stored faces).published, (stored faces).stored⟩

/-- The two halves of what the mint promises for what has been prepared. -/
theorem promised_of_request {m : Mint S} {p : PreparedSplit S} {promises : List (Promise S)}
    (signed : List.Forall₂ (fun output promise => m.Promises output.amount output promise)
      p.request.outputs promises) :
    List.Forall₂ (fun output promise => ∃ amount, m.Promises amount output promise)
      p.keep.outputs (promises.take p.keep.size) ∧
    List.Forall₂ (fun output promise => ∃ amount, m.Promises amount output promise)
      p.send.outputs (promises.drop p.keep.size) := by
  have signed : List.Forall₂ (fun promise output => ∃ amount, m.Promises amount output promise)
      promises (p.keep.outputs ++ p.send.outputs) := signed.flip.imp fun _ _ h => ⟨_, h⟩
  have length : p.keep.outputs.length = p.keep.size := List.length_map _
  rw [← length]
  exact ⟨(List.forall₂_take_append _ _ _ signed).flip, (List.forall₂_drop_append _ _ _ signed).flip⟩

variable {G : Type} [AddCommGroup G] (laws : S.Laws G)

include laws

/-- So both halves come to proofs, and these are valid. -/
theorem exists_parts {m : Mint S} (sound : m.Sound) {k : Keyset S}
    (published : m.keyset k.id = .ok k) {p : PreparedSplit S} {promises : List (Promise S)}
    (signed : List.Forall₂ (fun output promise => m.Promises output.amount output promise)
      p.request.outputs promises)
    (own : ∀ item ∈ p.keep.items ++ p.send.items, item.output.keysetId = k.id ∧
      Blind.blind S item.secret.toBytes item.factor = .ok item.output.blinded) (checked : Bool) :
    ∃ keep send, p.keep.proofs (promises.take p.keep.size) k.keys checked = .ok keep ∧
      p.send.proofs (promises.drop p.keep.size) k.keys checked = .ok send ∧
      ∀ q ∈ keep ++ send, m.Valid q := by
  obtain ⟨keepSigned, sendSigned⟩ := promised_of_request signed
  have keepOwn := fun item mem => own item (List.mem_append_left p.send.items mem)
  have sendOwn := fun item mem => own item (List.mem_append_right p.keep.items mem)
  obtain ⟨keep, keepMade, -⟩ := sound.exists_proofs laws published keepSigned keepOwn checked
  obtain ⟨send, sendMade, -⟩ := sound.exists_proofs laws published sendSigned sendOwn checked
  refine ⟨keep, send, keepMade, sendMade, fun q mem => ?_⟩
  rcases List.mem_append.1 mem with mem | mem
  · exact sound.valid_of_proofs laws published keepSigned keepOwn keepMade q mem
  · exact sound.valid_of_proofs laws published sendSigned sendOwn sendMade q mem

/-- What the mint has promised for what was prepared is made into proofs and kept, and given
proofs are archived: nothing but the store can fail in that, and it takes rows of new points. -/
theorem ends_takeIn {m : Mint S} (sound : m.Sound) {k : Keyset S}
    (published : m.keyset k.id = .ok k) {p : PreparedSplit S} {promises : List (Promise S)}
    (signed : List.Forall₂ (fun output promise => m.Promises output.amount output promise)
      p.request.outputs promises)
    (amounts : promises.map (·.amount) = p.keep.amounts ++ p.send.amounts)
    (own : ∀ item ∈ p.keep.items ++ p.send.items, item.output.keysetId = k.id ∧
      Blind.blind S item.secret.toBytes item.factor = .ok item.output.blinded)
    (id : p.keep.keysetId = k.id) (stored : x.wallet.store.keyset? k.id = some k)
    (settings : Settings) (status : ProofStatus) (ys : List S.Point) :
    (supply.world lightning).Ends (do
        Operation.lift (checkPromises promises (p.keep.amounts ++ p.send.amounts))
        let keys := (← fetchKeysOf p.keep.keysetId).keys
        let count := p.keep.size
        let keep ← Operation.unblind p.keep (promises.take count) keys settings.verifyDleq
        let send ← Operation.unblind p.send (promises.drop count) keys settings.verifyDleq
        let kept ← Operation.rowsOf keep .unspent none
        let sent ← Operation.rowsOf send status none
        Operation.askStore (.update (kept ++ sent) ys none)
        return (keep, send)) x
      (fun parts y => (∀ q ∈ parts.1 ++ parts.2, m.Valid q) ∧ ∃ rows store,
        x.wallet.store.update rows ys none = .ok store ∧ y = x.withStore store)
      (fun _ y => y = x ∧ ∃ keep send rows e,
        p.keep.proofs (promises.take p.keep.size) k.keys settings.verifyDleq = .ok keep ∧
        p.send.proofs (promises.drop p.keep.size) k.keys settings.verifyDleq = .ok send ∧
        Proof.ys (keep ++ send) = .ok (rows.map (·.y)) ∧
        x.wallet.store.update rows ys none = .error e) := by
  obtain ⟨keep, send, keepMade, sendMade, valid⟩ := exists_parts laws sound published signed own
    settings.verifyDleq
  obtain ⟨kept, keptMade⟩ := ProofRow.exists_ofProofs
    (fun q mem => (valid q (List.mem_append_left _ mem)).signed.exists_y) .unspent none
  obtain ⟨sent, sentMade⟩ := ProofRow.exists_ofProofs
    (fun q mem => (valid q (List.mem_append_right _ mem)).signed.exists_y) status none
  refine .seq (.known (checkPromises_eq_ok.2 amounts) ?_)
  refine .seq ((ends_fetchKeysOf_stored (k := k) (id.symm ▸ stored)).mono ?_ fun _ _ h => h.elim)
  rintro _ _ ⟨rfl, rfl⟩
  refine .seq (.known (mapError_eq_ok.2 keepMade) ?_)
  refine .seq (.known (mapError_eq_ok.2 sendMade) ?_)
  refine .seq (.known (mapError_eq_ok.2 keptMade) ?_)
  refine .seq (.known (mapError_eq_ok.2 sentMade) ?_)
  refine .seq (ends_update (fun store updated => .pure ⟨valid, _, store, updated, rfl⟩)
    fun e failed => ⟨rfl, keep, send, kept ++ sent, e, keepMade, sendMade, ?_, failed⟩)
  rw [List.map_append]
  exact Proof.ys_append (ProofRow.ys_of_ofProofs keptMade) (ProofRow.ys_of_ofProofs sentMade)

/-- What is done about an exchange once the mint has been asked. -/
theorem ends_splitInto_honoured (faces : x.Faces) (settings : Settings) (status : ProofStatus)
    (proofs : List (Proof S)) (amount : Amount) :
    (supply.world lightning).Ends (splitInto settings status proofs amount) x
      (fun parts y => Honoured x proofs (parts.1 ++ parts.2) y)
      (fun _ y => (∀ ys, Proof.ys proofs = .ok ys → (supply.world lightning).Fresh x.drawn y.drawn
        (knownPoints x.wallet.store ys)) → x.Idle y) := by
  unfold splitInto
  refine .guard (fun _ _ => refl x) fun _ => ?_
  refine .guard (fun _ _ => refl x) fun _ => ?_
  refine .seq (.lift (fun total counted => ?_) fun _ _ _ => refl x)
  refine .guard (fun _ _ => refl x) fun _ => ?_
  refine .seq (.lift (fun ys points => ?_) fun _ _ _ => refl x)
  refine .claiming (fun _ => refl x) ?_
  have claimed := (Scene.Calm.withMemory x (x.wallet.memory.claim ys).2).idle
  refine .seq (((ends_prepareSplit settings proofs amount _).and
    (ends_prepareSplit_idle settings proofs amount _)).mono ?_
    fun _ _ ⟨_, idle⟩ _ => (claimed.trans idle).withMemory _)
  rintro p y ⟨ready, idle, stored⟩
  obtain ⟨k, there, id⟩ := stored (claimed.faces faces)
  have idle := claimed.trans idle
  refine .seq (ends_ask (fun source answer m n served => ?_) fun _ n _ =>
    (idle.trans (Scene.Calm.served y n).idle).withMemory _)
  -- The proofs are taken, and from here on every step is known to succeed.
  obtain ⟨ys', granted⟩ := Mint.split_eq_ok (Mint.settle_eq_ok served)
  rw [idle.mint] at granted
  have published : x.mint.1.keyset k.id = .ok k := idle.mint ▸ there.published
  have amounts := granted.amounts.trans (amounts_request p)
  refine (ends_takeIn laws (x := { y with mint := (m, n) }) faces.sound published granted.signed
    amounts (fun item mem => id ▸ ready.own mem) id there.stored settings status ys).mono ?_ ?_
  · rintro parts _ ⟨valid, rows, store, stored, rfl⟩
    refine ⟨⟨ys', ready.inputs ▸ granted.accepted, granted.changed⟩,
      fun q mem => (valid q mem).signed, ?_⟩
    have asked := (idle.faces faces).withMint (m := m) (by rw [granted.changed, idle.mint]) n
    have stored := asked.withStore (Store.keysets_of_update stored)
    exact ⟨stored.sound, stored.registered⟩
  · -- The points of the new secrets are in no archive.
    rintro e _ ⟨rfl, keep, send, rows, e', keepMade, sendMade, rowPoints, failed⟩ fresh
    obtain ⟨-, -, length, secrets⟩ := ready.made amounts keepMade sendMade
    have updated := (fresh ys (mapError_eq_ok.1 points)).update
      (Nat.le_of_eq (by rw [length]; exact ready.drawn.symm)) secrets rowPoints idle.books none
    cases updated.symm.trans failed

/-! ## Minting the proofs of an invoice -/

theorem ends_mintProofs_granted (faces : x.Faces) (settings : Settings) (amount : Amount)
    (parts : Option (List Amount)) (invoiceId : String) :
    (supply.world lightning).Ends (mintProofs settings amount parts invoiceId) x
      (fun proofs y => Issued x invoiceId proofs y)
      (fun _ y => (supply.world lightning).Fresh x.drawn y.drawn
        (knownPoints x.wallet.store []) → x.Idle y) := by
  unfold mintProofs
  refine .guard (fun _ _ => refl x) fun _ => ?_
  refine .seq (.askStore (fun found store called => ?_) fun e store called => nomatch called)
  cases called
  rcases x.wallet.store.invoice? invoiceId with _ | invoice
  · exact .throw fun _ => refl x
  refine .seq ((ends_currentKeyset x).mono ?_ fun _ _ calm _ => calm.idle)
  rintro k y ⟨calm, stored⟩
  have there := stored faces
  refine .seq ((ends_denominations settings y).mono ?_ fun _ _ same _ => same ▸ calm.idle)
  rintro d _ rfl
  rename_i y
  refine .seq (.lift (fun amounts planned => ?_) fun _ _ _ => calm.idle)
  refine .claiming (fun _ => calm.idle) ?_
  have claimed := calm.trans (.withMemory y (y.wallet.memory.claim []).2)
  refine .seq ((ends_premint k.id amounts _).mono ?_ ?_)
  · rintro outputs _ ⟨-, drawn, rfl⟩
    have idle := claimed.idle.trans (.drawing _ amounts.length)
    refine .seq (ends_ask (fun source answer m n served => ?_) fun _ n _ =>
      (idle.trans (Scene.Calm.served _ n).idle).withMemory _)
    -- The quote is marked as minted, and from here on every step is known to succeed.
    obtain ⟨quote, granted⟩ := Mint.mint_eq_ok (Mint.settle_eq_ok served)
    have mintEq : y.mint.1 = x.mint.1 := calm.mint
    change y.mint.1.Mints _ _ _ _ at granted
    rw [mintEq] at granted
    obtain ⟨proofs, made, own⟩ := faces.sound.exists_proofs laws (mintEq ▸ there.published)
      (granted.signed.imp fun _ _ h => ⟨_, h⟩) (fun item mem => drawn.own mem) settings.verifyDleq
    obtain ⟨rows, rowsMade⟩ := ProofRow.exists_ofProofs (fun p mem => (own p mem).exists_y)
      .unspent (some invoiceId)
    have promised : answer.promises.map (·.amount) = outputs.amounts := by
      rw [granted.amounts, Premint.outputs, List.map_map]
      rfl
    refine .seq (.known (checkPromises_eq_ok.2 promised) ?_)
    refine .seq (.known (mapError_eq_ok.2 made) ?_)
    refine .seq (.known (mapError_eq_ok.2 rowsMade) ?_)
    refine .seq (ends_update (fun store stored => .seq (.tryStore (.pure ?_)))
      fun e failed fresh => ?_)
    · refine ⟨⟨quote, granted.found, granted.unminted, ?_⟩, granted.changed, own, ?_⟩
      · rw [Proof.exactTotal, Premint.amounts_of_proofs made]
        exact granted.value
      · have asked := (idle.faces faces).withMint (m := m)
          (by rw [granted.changed]; exact mintEq ▸ rfl) n
        have stored := asked.withStore (Store.keysets_of_update stored)
        exact ⟨stored.sound, stored.registered⟩
    · -- The points of the new secrets are in no archive.
      have unused : y.drawn = x.drawn := calm.drawn
      obtain ⟨length, secrets⟩ := drawn.made made
      have updated := fresh.update (Nat.le_of_eq (by rw [length, ← unused]; rfl)) (unused ▸ secrets)
        (ProofRow.ys_of_ofProofs rowsMade) calm.books none
      cases updated.symm.trans failed
  · rintro e _ ⟨n, rfl⟩ _
    exact (claimed.idle.trans (.drawing _ n)).withMemory _

/-! ## Paying an invoice -/

/-- The change of an honest mint is signed under the keyset that it was asked to sign it under, and
comes to proofs. -/
theorem ends_changeProofs_granted {m : Mint S} (sound : m.Sound) (settings : Settings)
    {blank : Premint S} {k : Keyset S} (published : m.keyset k.id = .ok k)
    (stored : x.wallet.store.keyset? k.id = some k)
    (own : ∀ item ∈ blank.items, item.output.keysetId = k.id ∧
      Blind.blind S item.secret.toBytes item.factor = .ok item.output.blinded)
    {promises : List (Promise S)}
    (promised : List.Forall₂ (fun output promise => ∃ amount, m.Promises amount output promise)
      (blank.outputs.take promises.length) promises) :
    (supply.world lightning).Ends (changeProofs settings blank promises) x
      (fun change y => y = x ∧ ∀ p ∈ change, m.Signed p) (fun _ _ => False) := by
  have outputs : (blank.take promises.length).outputs = blank.outputs.take promises.length := by
    rw [Premint.outputs, Premint.take, Premint.outputs, List.map_take]
  have fits : promises.length ≤ blank.size := by
    have length := promised.length_eq
    rw [List.length_take, Premint.outputs, List.length_map] at length
    rw [Premint.size]
    omega
  have named (promise : Promise S) (mem : promise ∈ promises) : promise.keysetId = k.id := by
    obtain ⟨output, sent, amount, made⟩ := exists_of_mem_forall₂ promised mem
    obtain ⟨item, drawn, rfl⟩ := List.mem_map.1 (List.mem_of_mem_take sent)
    rw [made.keysetId_eq, (own item drawn).1]
  obtain ⟨change, made, signed⟩ := sound.exists_proofs laws published
    (outputs ▸ promised) (fun item mem => own item (List.mem_of_mem_take mem)) settings.verifyDleq
  unfold changeProofs
  refine .guard (fun more => absurd more (Nat.not_lt.2 fits)) fun _ => ?_
  cases promises with
  | nil => exact .pure ⟨rfl, List.forall_mem_nil _⟩
  | cons first rest =>
    have same : ¬(first :: rest).any (·.keysetId ≠ first.keysetId) = true := by
      simp only [List.any_eq_true, not_exists, not_and]
      intro promise mem
      simp [named promise mem, named first List.mem_cons_self]
    refine .guard (fun other => absurd other same) fun _ => ?_
    refine .seq ((ends_fetchKeysOf_stored (k := k) ?_).mono ?_ fun _ _ h => h)
    · rw [named first List.mem_cons_self]
      exact stored
    · rintro _ _ ⟨rfl, rfl⟩
      exact .known (mapError_eq_ok.2 made) ⟨rfl, signed⟩

/-- What the mint has signed of the change is made into proofs and kept, and the proofs given are
archived. The change is worth no more than what was given, so that it can be counted, and nothing
but the store can fail in that: it takes rows of new points. -/
theorem ends_takeChange {m : Mint S} (sound : m.Sound) (settings : Settings)
    {blank : Premint S} {k : Keyset S} (published : m.keyset k.id = .ok k)
    (stored : x.wallet.store.keyset? k.id = some k)
    (own : ∀ item ∈ blank.items, item.output.keysetId = k.id ∧
      Blind.blind S item.secret.toBytes item.factor = .ok item.output.blinded)
    {response : MeltResponse S} (paid : response.paid = true)
    (promised : List.Forall₂ (fun output promise => ∃ amount, m.Promises amount output promise)
      (blank.outputs.take response.change.length) response.change)
    {total : Amount} (within : Amount.exactSum (response.change.map (·.amount)) ≤ total.toNat)
    (hash request id : String) (ys : List S.Point) :
    (supply.world lightning).Ends (do
        if !response.paid then throw .paymentFailed
        let change ← changeProofs settings blank response.change
        let changeTotal ← Operation.totalOf change
        Operation.askStore (.update (← Operation.rowsOf change .unspent none) ys (some id))
        let some amount := total.sub? changeTotal | throw .amountTooLarge
        Operation.askStore (.addInvoice
          ⟨id, hash, request, amount, .outgoing, true, response.preimage⟩)
        return (⟨id, true, response.preimage, change⟩ : Payment S)) x
      (fun payment y => payment.change.map (·.amount) = response.change.map (·.amount) ∧
        (∀ p ∈ payment.change, m.Signed p) ∧ ∃ rows store invoice,
          x.wallet.store.update rows ys (some id) = .ok store ∧
          y = x.withStore (store.addInvoice invoice))
      (fun _ y => y = x ∧ ∃ change rows e,
        change.map (·.secret) = blank.secrets.take change.length ∧ change.length ≤ blank.size ∧
        Proof.ys change = .ok (rows.map (·.y)) ∧
        x.wallet.store.update rows ys (some id) = .error e) := by
  refine .guard (fun unpaid => absurd paid (by simpa using unpaid)) fun _ => ?_
  refine .seq (((ends_changeProofs settings blank response.change x).and
    (ends_changeProofs_granted laws sound settings published stored own promised)).mono ?_
    fun _ _ h => h.2.elim)
  rintro change _ ⟨⟨-, amounts, secrets, length⟩, rfl, signed⟩
  have worth : Proof.exactTotal change ≤ total.toNat := by
    rw [Proof.exactTotal, amounts]
    exact within
  obtain ⟨rows, rowsMade⟩ := ProofRow.exists_ofProofs (fun p mem => (signed p mem).exists_y)
    .unspent none
  refine .seq (.known (mapError_eq_ok.2 (Proof.total_of_le worth)) ?_)
  refine .seq (.known (mapError_eq_ok.2 rowsMade) ?_)
  refine .seq (ends_update (fun store updated => ?_) fun e failed =>
    ⟨rfl, change, rows, e, secrets, length, ProofRow.ys_of_ofProofs rowsMade, failed⟩)
  rw [Amount.sub?, if_pos worth]
  refine .seq (.askStore (fun _ settled called => .pure ?_) fun _ _ called => ?_)
  · cases called
    exact ⟨amounts, signed, rows, store, _, updated, rfl⟩
  · cases called

/-- A payment that the mint has taken part in succeeds. -/
theorem ends_pay_honoured (faces : x.Faces) (settings : Settings) (proofs : List (Proof S))
    (request : String) (feeReserve : Amount) :
    (supply.world lightning).Ends (pay lightning settings proofs request feeReserve) x
      (fun payment y => Honoured x proofs payment.change y)
      (fun _ y => (∀ ys, Proof.ys proofs = .ok ys → (supply.world lightning).Fresh x.drawn y.drawn
        (knownPoints x.wallet.store ys)) → x.Idle y) := by
  unfold pay
  refine .guard (fun _ _ => refl x) fun _ => ?_
  refine .guard (fun _ _ => refl x) fun _ => ?_
  rcases lightning.paymentHash? request with _ | hash
  · exact .throw fun _ => refl x
  refine .seq (.lift (fun total counted => ?_) fun _ _ _ => refl x)
  refine .seq (.lift (fun ys points => ?_) fun _ _ _ => refl x)
  refine .claiming (fun _ => refl x) ?_
  have claimed := Scene.Calm.withMemory x (x.wallet.memory.claim ys).2
  refine .seq ((ends_currentKeyset _).mono ?_ fun _ _ calm _ =>
    (claimed.trans calm).idle.withMemory _)
  rintro k y ⟨calm, stored⟩
  have there := stored (claimed.faces faces)
  have calm := claimed.trans calm
  refine .seq ((ends_premint k.id _ y).mono ?_ ?_)
  · rintro blank _ ⟨-, drawn, rfl⟩
    refine .seq (.freshMeltId ?_)
    have idle := (calm.idle.trans (.drawing y (Premint.blankAmounts feeReserve).length)).trans
      (.naming _ (y.named + 1))
    refine .seq (ends_ask (fun source response m n served => ?_) fun _ n _ => ?_)
    · -- The proofs are taken, and from here on every step is known to succeed.
      obtain ⟨quote, ys', granted⟩ := Mint.melt_eq_ok (Mint.settle_eq_ok served)
      have mintEq : y.mint.1 = x.mint.1 := calm.mint
      change y.mint.1.Melts _ _ _ _ _ at granted
      rw [mintEq] at granted
      obtain ⟨parts, signed⟩ := granted.signed
      have within : Amount.exactSum (response.change.map (·.amount)) ≤ total.toNat := by
        rw [← Proof.exactTotal_of_total (mapError_eq_ok.1 counted)]
        exact (Nat.le_add_right _ _).trans granted.value
      let asked : Scene S (Mint S × Nat) :=
        ⟨y.wallet, (m, n), y.drawn + (Premint.blankAmounts feeReserve).length, y.named + 1⟩
      have stored : asked.wallet.store.keyset? k.id = some k := there.stored
      refine (ends_takeChange laws faces.sound settings (mintEq ▸ there.published) stored
        (fun item mem => drawn.own mem) granted.paid (forall₂_take_of_zip signed) within hash request
        _ ys).mono ?_ ?_
      · rintro payment _ ⟨-, own, rows, store, invoice, updated, rfl⟩
        refine ⟨⟨ys', granted.accepted, granted.changed⟩, own, ?_⟩
        have served := (idle.faces faces).withMint (m := m)
          (by rw [granted.changed]; exact mintEq ▸ rfl) n
        have stored := served.withStore (Store.keysets_of_update updated)
        exact ⟨stored.sound, stored.registered⟩
      · -- The points of the new secrets are in no archive.
        rintro e _ ⟨rfl, change, rows, e', secrets, length, rowPoints, failed⟩ fresh
        have unused : y.drawn = x.drawn := calm.drawn
        obtain ⟨fits, secrets⟩ := drawn.take length secrets
        have updated := (fresh ys (mapError_eq_ok.1 points)).update
          (by rw [← unused]; exact Nat.add_le_add_left fits _) (unused ▸ secrets) rowPoints
          calm.books (some ((supply.world lightning).meltId y.named))
        cases updated.symm.trans failed
    · exact (idle.trans (Scene.Calm.served _ n).idle).withMemory _
  · rintro e z ⟨n, drawn⟩ _
    rw [drawn]
    exact (calm.idle.trans (.drawing y n)).withMemory _

end World

end Chaumian.Wallet
