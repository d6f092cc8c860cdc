import Chaumian.Wallet.Command

/-!
# Programs that only settle invoices

Invoices are put into a store by three commands: one that asks the mint for an invoice, one that
mints proofs for it and one that pays an invoice. The first and the last of these record a new
invoice, under an identifier that the mint has chosen or that was drawn. The other one writes back
what it has read of an invoice before it went to the mint, marked as settled.

`Settling` says this of programs: whatever they are answered, they put no other invoices into the
ledger than ones that they have read there, marked as settled. All commands but those that record
invoices are such programs (`Command.settles`).
-/

namespace Chaumian

/-- An invoice marked as settled. -/
def Invoice.asSettled (i : Invoice) : Invoice := { i with settled := true }

namespace Wallet

variable {S : Suite} {ε β γ : Type} {read : List Invoice}

/-! ## What is read and what is put in -/

/-- The invoice that a call of the store puts into the ledger. -/
def StoreCall.puts? : StoreCall S → Option Invoice
  | addInvoice added => some added
  | _ => none

/-- The invoice that a request puts into the ledger. -/
def Request.puts? : Request S → Option Invoice
  | store call => call.puts?
  | _ => none

/-- The invoices found by a request. -/
def found : (request : Request S) → request.Answer → List Invoice
  | .store (.invoice _), .ok (some invoice) => [invoice]
  | _, _ => []

/-- Whatever it is answered, the program puts no other invoices into the ledger than such as it has
read there, marked as settled. Those it has read already are `read`. -/
def Settling : Steps S β → List Invoice → Prop
  | .done _, _ => True
  | .ask request next, read =>
    (∀ invoice, request.puts? = some invoice → ∃ r ∈ read, invoice = r.asSettled) ∧
      ∀ answer, Settling (next answer) (found request answer ++ read)

namespace Settling

theorem mono {p : Steps S β} {more : List Invoice} (h : Settling p read) (le : read ⊆ more) :
    Settling p more := by
  induction p generalizing read more with
  | done b => exact trivial
  | ask request next ih =>
    refine ⟨fun invoice asks => ?_, fun answer => ?_⟩
    · obtain ⟨r, mem, same⟩ := h.1 invoice asks
      exact ⟨r, le mem, same⟩
    · exact ih answer (h.2 answer) (List.append_subset.2
        ⟨List.subset_append_left _ _, List.subset_append_of_subset_right _ le⟩)

/-- What has been read before a program is known to the one that follows it. -/
theorem bind {p : Steps S β} {f : β → Steps S γ} (first : Settling p read)
    (next : ∀ b, Settling (f b) read) : Settling (p.bind f) read := by
  induction p generalizing read with
  | done b => exact next b
  | ask request rest ih =>
    exact ⟨first.1, fun answer => ih answer (first.2 answer) fun b =>
      (next b).mono (List.subset_append_right _ _)⟩

end Settling

/-- The operation only settles invoices, once it has read these. -/
def Settles (read : List Invoice) (op : ExceptT ε (Steps S) β) : Prop := Settling op.run read

namespace Settles

theorem pure (b : β) : Settles read (Pure.pure b : ExceptT ε (Steps S) β) := trivial

theorem throw (e : ε) : Settles read (MonadExcept.throw e : ExceptT ε (Steps S) β) := trivial

theorem bind {op : ExceptT ε (Steps S) γ} {f : γ → ExceptT ε (Steps S) β}
    (first : Settles read op) (next : ∀ c, Settles read (f c)) : Settles read (op >>= f) := by
  refine Settling.bind first fun outcome => ?_
  cases outcome with
  | ok c => exact next c
  | error e => exact trivial

theorem map {op : ExceptT ε (Steps S) γ} {f : γ → β} (h : Settles read op) :
    Settles read (do return f (← op)) :=
  h.bind fun _ => .pure _

theorem ite {c : Prop} [Decidable c] {op op' : ExceptT ε (Steps S) β} (yes : Settles read op)
    (no : Settles read op') : Settles read (if c then op else op') := by
  split
  · exact yes
  · exact no

/-- Where something is done first on a condition, only that and what follows it count. -/
theorem when {c : Prop} [Decidable c] {op : ExceptT ε (Steps S) PUnit}
    {next : PUnit → ExceptT ε (Steps S) β} (first : Settles read op)
    (rest : Settles read (next ⟨⟩)) : Settles read (if c then op >>= next else next ⟨⟩) :=
  ite (bind first fun _ => rest) rest

theorem guard {c : Prop} [Decidable c] {e : ε} {next : PUnit → ExceptT ε (Steps S) β}
    (rest : Settles read (next ⟨⟩)) :
    Settles read (if c then MonadExcept.throw e >>= next else next ⟨⟩) :=
  when (throw e) rest

theorem mapM {α : Type} {f : α → ExceptT ε (Steps S) β} (each : ∀ a, Settles read (f a))
    (l : List α) : Settles read (l.mapM f) := by
  induction l with
  | nil => exact pure []
  | cons a rest ih =>
    rw [List.mapM_cons]
    exact bind (each a) fun _ => bind ih fun _ => pure _

theorem tryCatch {op : ExceptT ε (Steps S) β} {handler : ε → ExceptT ε (Steps S) β}
    (h : Settles read op) (next : ∀ e, Settles read (handler e)) :
    Settles read (MonadExcept.tryCatch op handler) := by
  refine Settling.bind h fun outcome => ?_
  cases outcome with
  | ok b => exact trivial
  | error e => exact next e

/-! ### Requests -/

theorem lift (r : Except (Error S) β) : Settles read (Operation.lift r) := trivial

theorem tryStore (call : StoreCall S) (reads : call.puts? = none) :
    Settles read (Operation.tryStore call) :=
  ⟨fun _ puts => (nomatch reads.symm.trans puts), fun _ => trivial⟩

theorem askStore (call : StoreCall S) (reads : call.puts? = none) :
    Settles read (Operation.askStore call) :=
  bind (tryStore call reads) fun _ => lift _

/-- An invoice that is asked for has been read when it is found. -/
theorem askInvoice {id : String} {f : Option Invoice → Operation S β}
    (next : ∀ found, Settles (found.toList ++ read) (f found)) :
    Settles read (Operation.askStore (.invoice id) >>= f) := by
  refine ⟨fun _ puts => (nomatch puts), fun answer => ?_⟩
  cases answer with
  | error e => exact trivial
  | ok found =>
    cases found with
    | none => exact next none
    | some invoice => exact next (some invoice)

theorem askMint (call : MintCall S) : Settles read (Operation.askMint call) :=
  ⟨nofun, fun _ => trivial⟩

theorem askMemory (call : MemoryCall S) : Settles read (Operation.askMemory call) :=
  ⟨nofun, fun _ => trivial⟩

theorem claiming {ys : List S.Point} {body : Operation S β} (h : Settles read body) :
    Settles read (Operation.claiming ys body) := by
  refine bind (askMemory _) fun granted => ite ?_ (throw _)
  exact Settling.bind h fun _ => ⟨nofun, fun _ => trivial⟩

theorem premint (id : KeysetId) (amounts : List Amount) :
    Settles read (Operation.premint (S := S) id amounts) := by
  have generated : Settles read (Premint.generate (Operation.draw (S := S)) id amounts) := by
    refine bind (mapM (fun amount => ?_) amounts) fun _ => pure _
    exact bind ⟨nofun, fun _ => trivial⟩ fun _ => trivial
  refine bind (Settling.bind generated fun _ => trivial) fun outcome => ?_
  cases outcome with
  | ok p => exact pure p
  | error e => exact throw _

theorem premintFor (id : KeysetId) (d : Denominations) (amount : Amount) :
    Settles read (Operation.premintFor (S := S) id d amount) :=
  (lift _).bind fun _ => premint _ _

/-! ### Keysets -/

theorem fetchKeys : Settles (S := S) read Wallet.fetchKeys :=
  (askMint _).bind fun _ => guard <| (askStore (.addKeyset _) rfl).bind fun _ =>
    (askMemory _).bind fun _ => pure _

theorem fetchKeysOf (id : KeysetId) : Settles (S := S) read (Wallet.fetchKeysOf id) := by
  refine (askStore (.keyset id) rfl).bind fun known => ?_
  cases known with
  | some keyset => exact pure keyset
  | none =>
    exact (askMint _).bind fun _ => guard <| (askStore (.addKeyset _) rfl).bind fun _ => pure _

theorem fetchKeysetIds : Settles (S := S) read Wallet.fetchKeysetIds :=
  (askMint _).bind fun _ => (askMemory _).bind fun _ => pure _

theorem fetchAll (ids : List KeysetId) : Settles (S := S) read (Wallet.fetchAll ids) := by
  induction ids with
  | nil => exact pure ()
  | cons id rest ih => exact (fetchKeysOf id).bind fun _ => ih

theorem cachedCurrent : Settles (S := S) read Wallet.cachedCurrent := by
  refine (askMemory _).bind fun known => ?_
  cases known with
  | some id => exact askStore (.keyset id) rfl
  | none => exact pure none

theorem currentKeyset : Settles (S := S) read Wallet.currentKeyset := by
  refine cachedCurrent.bind fun known => ?_
  cases known with
  | some keyset => exact pure keyset
  | none => exact fetchKeys

theorem denominations (settings : Settings) :
    Settles (S := S) read (Wallet.denominations settings) := by
  refine cachedCurrent.bind fun known => ?_
  cases known <;> exact pure _

/-! ### Proofs -/

theorem proofsIn (states : List ProofStatus) : Settles (S := S) read (Wallet.proofsIn states) :=
  (askStore (.heldIn _) rfl).bind fun _ => pure _

theorem unreserve (proofs : List (Proof S)) : Settles read (Wallet.unreserve proofs) :=
  (lift _).bind fun _ => askStore (.unreserve _) rfl

theorem checkState (proofs : List (Proof S)) : Settles read (Wallet.checkState proofs) :=
  (lift _).bind fun _ => (askMint _).bind fun _ => lift _

theorem invalidate (proofs : List (Proof S)) (checked : Bool) :
    Settles read (Wallet.invalidate proofs checked) := by
  have archive (invalid : List (Proof S)) : Settles read (do
      Operation.askStore (.markSpent (← Operation.ysOf invalid) none)
      return invalid) :=
    (lift _).bind fun _ => (askStore (.markSpent _ _) rfl).bind fun _ => pure _
  exact ite ((checkState proofs).bind fun _ => (pure _).bind archive) ((pure _).bind archive)

theorem prepareSplit (settings : Settings) (proofs : List (Proof S)) (amount : Amount) :
    Settles read (Wallet.prepareSplit settings proofs amount) := by
  refine currentKeyset.bind fun _ => (denominations settings).bind fun _ => ?_
  refine (lift _).bind fun total => ?_
  rcases total.sub? amount with _ | rest
  · exact throw _
  · exact (premintFor _ _ _).bind fun _ => (premintFor _ _ _).bind fun _ => pure _

theorem splitInto (settings : Settings) (status : ProofStatus) (proofs : List (Proof S))
    (amount : Amount) : Settles read (Wallet.splitInto settings status proofs amount) := by
  unfold Wallet.splitInto
  refine guard ?_
  refine guard ?_
  refine (lift _).bind fun _ => ?_
  refine guard ?_
  refine (lift _).bind fun _ => claiming ?_
  refine (prepareSplit settings proofs amount).bind fun _ => (askMint _).bind fun _ => ?_
  refine (lift _).bind fun _ => (fetchKeysOf _).bind fun _ => ?_
  refine (lift _).bind fun _ => (lift _).bind fun _ => (lift _).bind fun _ => ?_
  exact (lift _).bind fun _ => (askStore (.update _ _ _) rfl).bind fun _ => pure _

theorem reserveOrPending (ys : List S.Point) : Settles read (Wallet.reserveOrPending ys) := by
  refine (tryStore (.reserve ys) rfl).bind fun answer => ?_
  rcases answer with (_ | _ | _ | _) | _
  · exact throw _
  · exact throw _
  · exact throw _
  · exact throw _
  · exact pure _

theorem splitToSend (settings : Settings) (available : List (Proof S)) (amount : Amount)
    (reserve : Bool) : Settles read (Wallet.splitToSend settings available amount reserve) := by
  have exchange (selected : List (Proof S)) : Settles read (do
      let ys ← Operation.ysOf selected
      Wallet.reserveOrPending ys
      let status := if reserve then ProofStatus.reserved else .unspent
      MonadExcept.tryCatch (Wallet.splitInto settings status selected amount) fun e => do
        Operation.askStore (.unreserve ys)
        MonadExcept.throw e) :=
    (lift _).bind fun _ => (reserveOrPending _).bind fun _ =>
      tryCatch (splitInto _ _ _ _) fun _ => (askStore (.unreserve _) rfl).bind fun _ => throw _
  unfold Wallet.splitToSend
  refine guard ?_
  refine (lift _).bind fun selected => (lift _).bind fun total => ?_
  refine ite (exchange selected) ((denominations settings).bind fun d => ?_)
  refine ite ?_ (exchange selected)
  cases reserve with
  | true => exact (lift _).bind fun _ => (reserveOrPending _).bind fun _ => pure _
  | false => exact pure _

theorem send (settings : Settings) (amount : Amount) (memo : Option String) :
    Settles (S := S) read (Wallet.send settings amount memo) :=
  (proofsIn _).bind fun _ => (splitToSend _ _ _ _).bind fun _ => lift _

theorem checkDleqs (proofs : List (Proof S)) : Settles read (Wallet.checkDleqs proofs) := by
  induction proofs with
  | nil => exact pure ()
  | cons p rest ih =>
    refine ite ((fetchKeysOf _).bind fun keyset => ?_) ih
    rcases keyset.keys.get? p.amount with _ | key
    · exact throw _
    · exact guard ih

theorem redeem (settings : Settings) (proofs : List (Proof S)) :
    Settles read (Wallet.redeem settings proofs) := by
  unfold Wallet.redeem
  refine when (checkDleqs proofs) ?_
  exact (lift _).bind fun _ => (splitInto _ _ _ _).bind fun _ => pure _

theorem receive (settings : Settings) (text : String) :
    Settles (S := S) read (Wallet.receive settings text) := by
  refine (lift _).bind fun token => ?_
  rcases token.mints.find? (· ≠ settings.mintUrl) with _ | other
  · exact (redeem _ _).bind fun _ => lift _
  · exact throw _

/-- The one command that puts into the ledger what it has read there. -/
theorem mintProofs (settings : Settings) (amount : Amount) (parts : Option (List Amount))
    (invoiceId : String) :
    Settles (S := S) [] (Wallet.mintProofs settings amount parts invoiceId) := by
  unfold Wallet.mintProofs
  refine guard ?_
  refine askInvoice fun known => ?_
  cases known with
  | none => exact throw _
  | some invoice =>
    refine currentKeyset.bind fun _ => (denominations settings).bind fun _ => ?_
    refine (lift _).bind fun _ => claiming <| (premint _ _).bind fun _ => ?_
    refine (askMint _).bind fun _ => (lift _).bind fun _ => (lift _).bind fun _ => ?_
    refine (lift _).bind fun _ => (askStore (.update _ _ _) rfl).bind fun _ => ?_
    refine bind ⟨fun _ puts => ?_, fun _ => trivial⟩ fun _ => pure _
    cases puts
    exact ⟨invoice, List.mem_cons_self, rfl⟩

end Settles

namespace Command

/-- Whether a command records new invoices. -/
def records : Command S → Bool
  | requestMint _ => true
  | pay .. => true
  | _ => false

/-- All other commands only settle invoices. -/
theorem settles {command : Command S} (h : command.records = false) (lightning : Lightning)
    (settings : Settings) : Settles [] (command.operation lightning settings) := by
  cases command with
  | «open» =>
    refine .bind ?_ fun _ => .pure _
    exact .bind .fetchKeys fun _ => Settles.fetchKeysetIds.bind fun _ => .fetchAll _
  | info => exact .map (.askMint _)
  | denominations => exact .map (.denominations settings)
  | fetchKeys => exact .map .fetchKeys
  | fetchKeysOf id => exact .map (.fetchKeysOf id)
  | fetchKeysetIds => exact .map .fetchKeysetIds
  | cachedCurrent => exact .map .cachedCurrent
  | currentKeyset => exact .map .currentKeyset
  | add proofs status mintId =>
    exact .bind (.lift _) fun _ => .bind (.askStore (.update _ _ _) rfl) fun _ => .pure _
  | reserve ys => exact .bind (.askStore (.reserve ys) rfl) fun _ => .pure _
  | unreserve proofs => exact .bind (.unreserve proofs) fun _ => .pure _
  | requestMint amount => cases h
  | mint amount parts invoiceId => exact .map (.mintProofs settings amount parts invoiceId)
  | prepareSplit proofs amount => exact .map (.prepareSplit settings proofs amount)
  | split proofs amount => exact .map (.splitInto settings .unspent proofs amount)
  | splitToSend proofs amount reserved =>
    exact .map (.splitToSend settings proofs amount reserved)
  | send amount memo => exact .map (.send settings amount memo)
  | redeem proofs => exact .map (.redeem settings proofs)
  | receive text => exact .map (.receive settings text)
  | checkState proofs => exact .map (.checkState proofs)
  | invalidate proofs checked => exact .map (.invalidate proofs checked)
  | payQuote request =>
    refine .bind (.bind (.askMint _) fun quote => ?_) fun _ => .pure _
    rcases quote.amount.add? quote.feeReserve with _ | total
    · exact .throw _
    · exact .pure _
  | pay proofs request reserve => cases h
  | held states => exact .map (.proofsIn states)

end Command

end Wallet

end Chaumian
