import Chaumian.Proofs.Wallet.Exchange
import Chaumian.Proofs.Wallet.Selection
import Chaumian.Wallet.Receive
import Chaumian.Wallet.Send

/-!
# Sending and receiving with a mint that may answer anything

Proofs of an exact amount are either set aside as they are or come of an exchange of proofs that
were set aside for it; if that fails, exactly these are free again. What is left to do after the
books have been changed, making a token of the proofs or counting what was received, cannot fail.
-/

namespace Chaumian.Wallet.World

variable {S : Suite} {τ : Type} {world : World S τ} {x : Scene S τ}

/-! ## Proofs of an exact amount -/

theorem ends_reserveOrPending (ys : List S.Point) (x : Scene S τ) :
    world.Ends (reserveOrPending ys) x
      (fun _ y => ∃ store, x.wallet.store.reserve ys = .ok store ∧ y = x.withStore store)
      (fun _ y => y = x) := by
  refine .seq (.tryStore ?_)
  rw [StoreCall.perform]
  rcases reserved : x.wallet.store.reserve ys with e | store
  · cases e <;> exact .throw rfl
  · exact .pure ⟨store, rfl, rfl⟩

/-- Proofs are set aside and exchanged; if that fails they are freed. -/
theorem ends_exchange {settings : Settings} {selected : List (Proof S)} {amount : Amount}
    {status : ProofStatus} {Q : List (Proof S) × List (Proof S) → Scene S τ → Prop}
    {Failed : Scene S τ → Prop} (failed : Failed x)
    (exchange : ∀ ys store, Proof.ys selected = .ok ys → x.wallet.store.reserve ys = .ok store →
      world.Ends (splitInto settings status selected amount) (x.withStore store) Q
        fun _ z => Failed (z.withStore (z.wallet.store.unreserve ys))) :
    world.Ends (do
        let ys ← Operation.ysOf selected
        reserveOrPending ys
        tryCatch (splitInto settings status selected amount) fun e => do
          Operation.askStore (.unreserve ys)
          throw e) x Q fun _ => Failed := by
  refine .seq (.lift (fun ys points => ?_) fun _ _ => failed)
  refine .seq ((ends_reserveOrPending ys x).mono ?_ fun _ _ h => h ▸ failed)
  rintro _ z ⟨store, reserved, rfl⟩
  refine .tryCatch (exchange ys store (mapError_eq_ok.1 points) reserved) fun e z refused => ?_
  refine .seq (.askStore (fun _ freed called => .throw ?_) fun _ _ called => nomatch called)
  cases called
  exact refused

/-- How proofs of an exact amount are provided: the proofs selected are of the amount as they are,
and only set aside if that is asked for, or they are set aside and then exchanged. What the
denominations are looked up in is described by `I`. -/
theorem ends_provide {settings : Settings} {available : List (Proof S)} {amount : Amount}
    {reserve : Bool} {Q : List (Proof S) × List (Proof S) → Scene S τ → Prop}
    {I Failed : Scene S τ → Prop} (start : I x)
    (looked : world.Ends (Wallet.denominations settings) x (fun _ => I) fun _ => I)
    (failed : ∀ y, I y → Failed y)
    (whole : ∀ selected y, amount ≠ .zero → selectToCover available amount = .ok selected →
      Proof.exactTotal selected = amount.toNat →
      (∃ d : Denominations, d.isCanonical (selected.map (·.amount))) → I y →
      if reserve then ∀ ys store, Proof.ys selected = .ok ys →
        y.wallet.store.reserve ys = .ok store → Q ([], selected) (y.withStore store)
      else Q ([], selected) y)
    (exchange : ∀ selected ys store y, amount ≠ .zero →
      selectToCover available amount = .ok selected → Proof.ys selected = .ok ys → I y →
      y.wallet.store.reserve ys = .ok store →
      world.Ends (splitInto settings (if reserve then .reserved else .unspent) selected amount)
        (y.withStore store) Q fun _ z => Failed (z.withStore (z.wallet.store.unreserve ys))) :
    world.Ends (splitToSend settings available amount reserve) x Q fun _ => Failed := by
  unfold splitToSend
  refine .guard (fun _ => failed x start) fun positive => ?_
  refine .seq (.lift (fun selected chosen => ?_) fun _ _ => failed x start)
  refine .seq (.lift (fun total counted => ?_) fun _ _ => failed x start)
  have counted := Proof.exactTotal_of_total (mapError_eq_ok.1 counted)
  have exchanged (y : Scene S τ) (here : I y) := ends_exchange (failed y here)
    fun ys store points reserved =>
      exchange selected ys store y positive chosen points here reserved
  -- What is worth more than the amount has to be exchanged.
  refine .ite (fun _ => .seq (.pure (exchanged x start))) fun within => ?_
  refine .seq (looked.mono (fun d y here => ?_) fun _ y here => failed y here)
  refine .seq (.pure (.ite (fun fits => ?_) fun _ => exchanged y here))
  have exact : Proof.exactTotal selected = amount.toNat := by
    have covered := (selectToCover_covers chosen).1
    have within : ¬amount.toNat < total.toNat := within
    omega
  have provided := whole selected y positive chosen exact ⟨d, fits⟩ here
  refine .ite (fun asked => ?_) fun unasked => .pure ?_
  · rw [if_pos asked] at provided
    refine .seq (.lift (fun ys points => ?_) fun _ _ => failed y here)
    refine .seq ((ends_reserveOrPending ys y).mono ?_ fun _ _ h => h ▸ failed y here)
    rintro _ z ⟨store, reserved, rfl⟩
    exact .pure (provided ys store (mapError_eq_ok.1 points) reserved)
  · rw [if_neg unasked] at provided
    exact provided

/-- How proofs of an exact amount have been provided. -/
inductive Provided (world : World S τ) (available : List (Proof S)) (amount : Amount)
    (reserve : Bool) (x : Scene S τ) :
    List (Proof S) × List (Proof S) → Scene S τ → Prop
  /-- The proofs selected are of the amount as they are. -/
  | whole {selected : List (Proof S)} {y : Scene S τ}
    (chosen : selectToCover available amount = .ok selected)
    (exact : Proof.exactTotal selected = amount.toNat)
    (canonical : ∃ d : Denominations, d.isCanonical (selected.map (·.amount)))
    (unused : y.drawn = x.drawn)
    (aside : if reserve then
        ∃ (ys : List S.Point) (store : Store S), Proof.ys selected = .ok ys ∧
          store.books = x.wallet.store.books ∧ store.reserve ys = .ok y.wallet.store
      else y.wallet.store.books = x.wallet.store.books) :
    Provided world available amount reserve x ([], selected) y
  /-- The proofs selected have been set aside and then exchanged. -/
  | exchanged {selected : List (Proof S)} {ys : List S.Point} {store : Store S} {z : Scene S τ}
    {parts : List (Proof S) × List (Proof S)} {y : Scene S τ}
    (chosen : selectToCover available amount = .ok selected)
    (points : Proof.ys selected = .ok ys)
    (books : store.books = x.wallet.store.books)
    (aside : store.reserve ys = .ok z.wallet.store)
    (unused : z.drawn = x.drawn)
    (made : world.Exchanged (if reserve then .reserved else .unspent) selected amount z parts y) :
    Provided world available amount reserve x parts y

/-- Freeing proofs gives back the books there were before these were set aside. -/
theorem books_unreserve {store aside later : Store S} {ys : List S.Point} (keyed : store.Keyed)
    (reserved : store.reserve ys = .ok aside) (same : later.books = aside.books) :
    (later.unreserve ys).books = store.books := by
  have keyedAside : aside.Keyed := by
    rw [(Store.reserve_eq_ok reserved).2]
    exact keyed.modifyAll_withStatus .reserved ys
  rw [← Store.unreserve_reserve keyed reserved, Store.unreserve_eq keyedAside,
    Store.unreserve_eq (keyedAside.of_books same)]
  exact congrArg (fun b =>
    (b.1.map fun p => if p.row.y ∈ ys ∧ !p.archived then Store.freed p else p, b.2)) same

theorem ends_splitToSend (settings : Settings) (available : List (Proof S)) (amount : Amount)
    (reserve : Bool) (x : Scene S τ) (keyed : x.wallet.store.Keyed) :
    world.Ends (splitToSend settings available amount reserve) x
      (fun parts y => amount ≠ .zero ∧ world.Provided available amount reserve x parts y)
      (fun _ y => y.wallet.store.books = x.wallet.store.books) := by
  refine ends_provide (I := x.Undisturbed) (refl x) (Within.denominations settings x)
    (fun _ same => same.books) ?_ ?_
  · intro selected y positive chosen exact canonical same
    by_cases asked : reserve = true
    · rw [if_pos asked]
      refine fun ys store points reserved => ⟨positive, .whole chosen exact canonical same.drawn ?_⟩
      rw [if_pos asked]
      exact ⟨ys, y.wallet.store, points, same.books, reserved⟩
    · rw [if_neg asked]
      refine ⟨positive, .whole chosen exact canonical same.drawn ?_⟩
      rw [if_neg asked]
      exact same.books
  · -- A failed exchange has left the books alone, so that freeing the proofs undoes all there was.
    intro selected ys store y positive chosen points same reserved
    refine (ends_splitInto settings _ selected amount _).mono (fun parts z made => ?_)
      fun _ z refused => ?_
    · exact ⟨positive, .exchanged (z := y.withStore store) chosen points same.books reserved
        same.drawn made⟩
    · exact (books_unreserve (keyed.of_books same.books) reserved refused).trans same.books

/-- What is provided for an amount is worth that amount. -/
theorem Provided.exactTotal {available : List (Proof S)} {amount : Amount} {reserve : Bool}
    {parts : List (Proof S) × List (Proof S)} {y : Scene S τ}
    (h : world.Provided available amount reserve x parts y) :
    Proof.exactTotal parts.2 = amount.toNat := by
  cases h with
  | whole _ exact _ _ _ => exact exact
  | exchanged _ _ _ _ _ made =>
    obtain ⟨d, _, _, _, _, _, sent⟩ := made.amounts
    exact Denominations.exactSum_decompose sent

/-- A token can be made of it. -/
theorem Provided.ne_nil {available : List (Proof S)} {amount : Amount} {reserve : Bool}
    {parts : List (Proof S) × List (Proof S)} {y : Scene S τ} (positive : amount ≠ .zero)
    (h : world.Provided available amount reserve x parts y) : parts.2 ≠ [] := by
  intro none
  have worth := h.exactTotal
  rw [none] at worth
  exact positive (Amount.ext worth.symm)

/-! ## Sending -/

theorem ends_unspentProofs (x : Scene S τ) :
    world.Ends unspentProofs x (fun proofs y => proofs = x.wallet.held [.unspent] ∧ y = x)
      (fun _ _ => False) := by
  refine .map (.askStore (fun rows store called => ?_) fun _ _ called => nomatch called)
  cases called
  exact ⟨rfl, rfl⟩

/-- A token is made of the proofs that are provided to be sent. -/
theorem Ends.send {settings : Settings} {amount : Amount} {memo : Option String}
    {Q : Token S → Scene S τ → Prop} {E : Error S → Scene S τ → Prop}
    (h : world.Ends (splitToSend settings (x.wallet.held [.unspent]) amount true) x
      (fun parts y => parts.2 ≠ [] ∧ Q ⟨[⟨settings.mintUrl, parts.2⟩], memo⟩ y) E) :
    world.Ends (Wallet.send settings amount memo) x Q E := by
  refine .seq ((ends_unspentProofs x).mono ?_ fun _ _ h => h.elim)
  rintro _ _ ⟨rfl, rfl⟩
  refine .bind h ?_
  rintro ⟨keep, sent⟩ y ⟨some, done⟩
  have made : Token.ofProofs settings.mintUrl sent memo = .ok ⟨[⟨settings.mintUrl, sent⟩], memo⟩ :=
    if_neg some
  dsimp only
  rw [made]
  exact .pure done

theorem ends_send (settings : Settings) (amount : Amount) (memo : Option String) (x : Scene S τ)
    (keyed : x.wallet.store.Keyed) :
    world.Ends (send settings amount memo) x
      (fun token y => ∃ parts : List (Proof S) × List (Proof S),
        token = ⟨[⟨settings.mintUrl, parts.2⟩], memo⟩ ∧
        world.Provided (x.wallet.held [.unspent]) amount true x parts y)
      (fun _ y => y.wallet.store.books = x.wallet.store.books) := by
  refine .send ((ends_splitToSend settings _ amount true _ keyed).mono ?_ fun _ _ h => h)
  rintro parts y ⟨positive, provided⟩
  exact ⟨provided.ne_nil positive, parts, rfl, provided⟩

/-! ## Receiving -/

theorem ends_redeem (settings : Settings) (proofs : List (Proof S)) (x : Scene S τ) :
    world.Ends (redeem settings proofs) x
      (fun redeemed y => ∃ (keep : List (Proof S)) (total : Amount) (z : Scene S τ),
        Proof.total proofs = .ok total ∧ x.Undisturbed z ∧
        world.Exchanged .unspent proofs total z (keep, redeemed) y)
      (fun _ y => y.wallet.store.books = x.wallet.store.books) := by
  have exchange (z : Scene S τ) (same : x.Undisturbed z) : world.Ends (do
      let total ← Operation.totalOf proofs
      let parts ← split settings proofs total
      return parts.2) z
      (fun redeemed y => ∃ (keep : List (Proof S)) (total : Amount) (z : Scene S τ),
        Proof.total proofs = .ok total ∧ x.Undisturbed z ∧
        world.Exchanged .unspent proofs total z (keep, redeemed) y)
      (fun _ y => y.wallet.store.books = x.wallet.store.books) := by
    refine .seq (.lift (fun total counted => ?_) fun _ _ => same.books)
    refine .seq ((ends_splitInto settings .unspent proofs total z).mono ?_
      fun _ _ failed => failed.trans same.books)
    rintro ⟨keep, redeemed⟩ y made
    exact .pure ⟨keep, total, z, mapError_eq_ok.1 counted, same, made⟩
  refine .ite (fun _ => ?_) fun _ => exchange x (refl x)
  exact .within (Quiet.registers.checkDleqs proofs) (fun _ _ same => same.books)
    fun _ z same => exchange z same

/-- What is received has the value it is exchanged for, so that it can be counted. -/
theorem ends_receive (settings : Settings) (text : String) (x : Scene S τ) :
    world.Ends (receive settings text) x
      (fun total y => ∃ (token : Token S) (keep redeemed : List (Proof S)) (z : Scene S τ),
        Token.ofText S text = .ok token ∧ (∀ mint ∈ token.mints, mint = settings.mintUrl) ∧
        Proof.total token.proofs = .ok total ∧ x.Undisturbed z ∧
        world.Exchanged .unspent token.proofs total z (keep, redeemed) y)
      (fun _ y => y.wallet.store.books = x.wallet.store.books) := by
  refine .seq (.lift (fun token decoded => ?_) fun _ _ => rfl)
  rcases foreign : token.mints.find? (· ≠ settings.mintUrl) with _ | other
  · refine .seq ((ends_redeem settings token.proofs x).mono ?_ fun _ _ h => h)
    rintro redeemed y ⟨keep, total, z, counted, same, made⟩
    have worth : Proof.exactTotal redeemed = total.toNat := by
      obtain ⟨d, _, _, _, _, _, sent⟩ := made.amounts
      exact Denominations.exactSum_decompose sent
    have fits : Proof.total redeemed = .ok total := by
      rw [Proof.total_eq_ofExact, worth]
      exact Amount.ofExact_of_lt total.lt
    rw [Operation.totalOf, fits]
    refine .pure ⟨token, keep, redeemed, z, mapError_eq_ok.1 decoded, fun mint mem => ?_, counted,
      same, made⟩
    simpa using List.find?_eq_none.1 foreign mint mem
  · exact .throw rfl

end Chaumian.Wallet.World
