import Chaumian.Proofs.Wallet.Exchange
import Chaumian.Proofs.Wallet.Interleaving
import Chaumian.Wallet.Melt
import Chaumian.Wallet.Send

/-!
# What sends and payments do among others

Exchanges, sends and payments are followed from one request to the next, whatever each of them is
answered: they only ask for what is permitted at the stage that they have come to. What they come
to is said of the stage at the end. A send that fails has set nothing aside any more. One that
succeeds hands out what is set aside for it. Whatever was claimed is released, and what was refused
a claim fails, with the error that says so.
-/

namespace Chaumian.Wallet

variable {S : Suite} {β γ : Type} {own : Option (List S.Point)} {g : Stage S}

/-! ## Looking things up -/

/-- An operation that nobody else could notice. -/
def Unnoticed (op : Operation S β) : Prop :=
  ∀ own g, Stage.Ends own g op (fun _ g' => g' = g) fun _ g' => g' = g

/-- A first part that nobody could notice. -/
theorem Stage.Ends.unnoticed {op : Operation S γ} {f : γ → Operation S β} {Q : β → Stage S → Prop}
    {E : Error S → Stage S → Prop} (first : Unnoticed op) (failed : ∀ e, E e g)
    (next : ∀ c, g.Ends own (f c) Q E) : g.Ends own (op >>= f) Q E :=
  .seq ((first own g).mono (fun c _ same => same ▸ next c) fun e _ same => same ▸ failed e)

namespace Unnoticed

theorem pure (b : β) : Unnoticed (Pure.pure b : Operation S β) := fun _ _ => .pure rfl

theorem throw (e : Error S) : Unnoticed (MonadExcept.throw e : Operation S β) :=
  fun _ _ => .throw rfl

theorem bind {op : Operation S γ} {f : γ → Operation S β} (first : Unnoticed op)
    (next : ∀ c, Unnoticed (f c)) : Unnoticed (op >>= f) :=
  fun own g => .unnoticed first (fun _ => rfl) fun c => next c own g

theorem guard {c : Prop} [Decidable c] {e : Error S} {next : PUnit → Operation S β}
    (rest : Unnoticed (next ⟨⟩)) :
    Unnoticed (if c then MonadExcept.throw e >>= next else next ⟨⟩) :=
  fun own g => .guard rfl fun _ => rest own g

theorem lift (r : Except (Error S) β) : Unnoticed (Operation.lift r) :=
  fun _ _ => .lift (fun _ _ => rfl) fun _ _ => rfl

theorem askMint (call : MintCall S) : Unnoticed (Operation.askMint call) :=
  fun _ _ => .askMint (fun _ => rfl) fun _ => rfl

theorem keyset (id : KeysetId) : Unnoticed (S := S) (Operation.askStore (.keyset id)) :=
  fun _ _ => .askStore trivial (fun _ _ => rfl) fun _ _ => rfl

theorem addKeyset (keyset : Keyset S) : Unnoticed (Operation.askStore (.addKeyset keyset)) :=
  fun _ _ => .askStore trivial (fun _ _ => rfl) fun _ _ => rfl

theorem fetchKeys : Unnoticed (S := S) Wallet.fetchKeys :=
  (askMint _).bind fun _ => guard <| (addKeyset _).bind fun _ =>
    bind (fun _ _ => .askMemory trivial fun _ => rfl) fun _ => pure _

theorem fetchKeysOf (id : KeysetId) : Unnoticed (S := S) (Wallet.fetchKeysOf id) := by
  refine (keyset id).bind fun known => ?_
  cases known with
  | some found => exact pure _
  | none => exact (askMint _).bind fun _ => guard <| (addKeyset _).bind fun _ => pure _

theorem cachedCurrent : Unnoticed (S := S) Wallet.cachedCurrent := by
  refine bind (fun _ _ => .askMemory trivial fun _ => rfl) fun known => ?_
  cases known with
  | some id => exact keyset id
  | none => exact pure _

theorem currentKeyset : Unnoticed (S := S) Wallet.currentKeyset := by
  refine cachedCurrent.bind fun known => ?_
  cases known with
  | some found => exact pure _
  | none => exact fetchKeys

theorem denominations (settings : Settings) :
    Unnoticed (S := S) (Wallet.denominations settings) := by
  refine cachedCurrent.bind fun known => ?_
  cases known <;> exact pure _

end Unnoticed

/-! ## Claims -/

/-- Proofs are claimed for as long as the operation on them is at work, whichever way it ends. An
operation that is refused its claim fails. -/
theorem Stage.Ends.claiming {ys : List S.Point} {body : Operation S β} {Q : β → Stage S → Prop}
    {E : Error S → Stage S → Prop} (idle : g.claims = []) (unrefused : g.refused = false)
    (given : own.getD g.aside = ys) (pending : E Operation.beingSpent { g with refused := true })
    (h : Stage.Ends own { g with claims := [ys] } body
      (fun b g' => g'.claims = [ys] ∧ Q b { g' with claims := [] })
      fun e g' => g'.claims = [ys] ∧ E e { g' with claims := [] }) :
    g.Ends own (Operation.claiming ys body) Q E := by
  refine .seq (.askMemory ⟨idle, unrefused, given⟩ fun granted => ?_)
  obtain ⟨aside, stored, drawn, claims, refused⟩ := g
  obtain rfl : claims = [] := idle
  obtain rfl : refused = false := unrefused
  cases granted with
  | false => exact .throw pending
  | true =>
    refine Obeys.bind (Obeys.mono h fun outcome g' ends => ?_)
    -- The outcome of the body is kept while what was claimed is released.
    obtain ⟨aside, stored, drawn, claims, refused⟩ := g'
    have released : claims = [ys] → claims.erase ys = [] := by
      rintro rfl
      exact List.erase_cons_head ..
    cases outcome with
    | ok b =>
      obtain ⟨same, q⟩ := ends
      refine ⟨same, fun _ _ => ?_⟩
      show Q b ⟨aside, stored, drawn, claims.erase ys, refused⟩
      rw [released same]
      exact q
    | error e =>
      obtain ⟨same, failed⟩ := ends
      refine ⟨same, fun _ _ => ?_⟩
      show E e ⟨aside, stored, drawn, claims.erase ys, refused⟩
      rw [released same]
      exact failed

/-! ## New outputs -/

/-- A stage at which more secrets have been drawn. -/
def Stage.withDrawn (g : Stage S) (secrets : List Secret) : Stage S :=
  { g with drawn := g.drawn ++ secrets }

theorem Stage.withDrawn_nil (g : Stage S) : g.withDrawn [] = g := by
  rw [withDrawn, List.append_nil]

theorem Stage.withDrawn_withDrawn (g : Stage S) (first later : List Secret) :
    (g.withDrawn first).withDrawn later = g.withDrawn (first ++ later) := by
  rw [withDrawn, withDrawn, withDrawn, List.append_assoc]

theorem Stage.Ends.draw {ε : Type} {Q : Secret × S.Scalar → Stage S → Prop}
    {E : ε → Stage S → Prop} (next : ∀ secret factor, Q (secret, factor) (g.withDrawn [secret])) :
    g.Ends own (ExceptT.lift Operation.draw : ExceptT ε (Steps S) _) Q E :=
  ⟨trivial, fun pair _ => next pair.1 pair.2⟩

theorem ends_drawItems (id : KeysetId) (amounts : List Amount) (g : Stage S) :
    Stage.Ends own g (amounts.mapM fun amount => do
        let (secret, factor) ← (Operation.draw : Steps S _)
        (ExceptT.mk (Pure.pure (PremintItem.make id amount secret factor)) :
          ExceptT Blind.Error (Steps S) (PremintItem S)))
      (fun items g' => g' = g.withDrawn (items.map (·.secret)))
      (fun _ g' => ∃ secrets, g' = g.withDrawn secrets) := by
  induction amounts generalizing g with
  | nil => exact .pure g.withDrawn_nil.symm
  | cons amount rest ih =>
    rw [List.mapM_cons]
    refine .seq (.seq (.draw fun secret factor => ?_))
    refine .done (fun item made => ?_) fun e _ => ⟨[secret], rfl⟩
    refine .seq ((ih _).mono ?_ ?_)
    · rintro items _ rfl
      have same : item.secret = secret := by rw [(PremintItem.make_eq_ok made).2]
      refine .pure ?_
      rw [List.map_cons, same]
      exact g.withDrawn_withDrawn [secret] _
    · rintro e _ ⟨secrets, rfl⟩
      exact ⟨_, g.withDrawn_withDrawn [secret] secrets⟩

theorem ends_premint (id : KeysetId) (amounts : List Amount) (g : Stage S) :
    g.Ends own (Operation.premint id amounts)
      (fun p g' => g' = g.withDrawn p.secrets)
      (fun _ g' => ∃ secrets, g' = g.withDrawn secrets) := by
  have generated : g.Ends own (Premint.generate Operation.draw id amounts)
      (fun p g' => g' = g.withDrawn p.secrets) (fun _ g' => ∃ secrets, g' = g.withDrawn secrets) :=
    .seq ((ends_drawItems id amounts g).mono (fun _ _ drawn => .pure drawn) fun _ _ h => h)
  refine .seq (.attempt (generated.mono ?_ ?_))
  · exact fun p g' drawn => .pure drawn
  · exact fun e g' drawn => .throw drawn

theorem ends_premintFor (id : KeysetId) (d : Denominations) (amount : Amount) (g : Stage S) :
    g.Ends own (Operation.premintFor id d amount)
      (fun p g' => g' = g.withDrawn p.secrets) (fun _ g' => ∃ secrets, g' = g.withDrawn secrets) :=
  .unnoticed (.lift _) (fun _ => ⟨[], g.withDrawn_nil.symm⟩) fun amounts =>
    ends_premint id amounts g

/-! ## Exchanges -/

theorem ends_prepareSplit (settings : Settings) (proofs : List (Proof S)) (amount : Amount)
    (g : Stage S) :
    g.Ends own (prepareSplit settings proofs amount)
      (fun p g' => g' = g.withDrawn (p.keep.secrets ++ p.send.secrets))
      (fun _ g' => ∃ secrets, g' = g.withDrawn secrets) := by
  have nothing : ∃ secrets, g = g.withDrawn secrets := ⟨[], g.withDrawn_nil.symm⟩
  refine .unnoticed .currentKeyset (fun _ => nothing) fun keyset => ?_
  refine .unnoticed (.denominations settings) (fun _ => nothing) fun d => ?_
  refine .unnoticed (.lift _) (fun _ => nothing) fun total => ?_
  rcases total.sub? amount with _ | rest
  · exact .throw nothing
  refine .seq ((ends_premintFor _ _ _ _).mono ?_ fun _ _ drawn => drawn)
  rintro keep _ rfl
  refine .seq ((ends_premintFor _ _ _ _).mono ?_ ?_)
  · rintro send _ rfl
    exact .pure (g.withDrawn_withDrawn _ _)
  · rintro _ _ ⟨secrets, rfl⟩
    exact ⟨_, g.withDrawn_withDrawn _ secrets⟩

/-- What an exchange has come to when it succeeds. -/
structure Stage.Exchanged (status : ProofStatus) (parts : List (Proof S) × List (Proof S))
    (g : Stage S) : Prop where
  stored : g.stored = true
  claims : g.claims = []
  refused : g.refused = false
  drawn : (parts.1 ++ parts.2).map (·.secret) = g.drawn
  aside : status = .reserved → Proof.ys parts.2 = .ok g.aside

/-- What an operation has come to when it fails: nothing is stored, what was set aside for it before
still is, and nothing is claimed any more. If it was refused a claim, the error says so. -/
structure Stage.Failed (aside : List S.Point) (e : Error S) (g : Stage S) : Prop where
  aside : g.aside = aside
  stored : g.stored = false
  claims : g.claims = []
  refused : g.refused = true → e = Operation.beingSpent

theorem Stage.Failed.of_idle {aside : List S.Point} (same : g.aside = aside)
    (stored : g.stored = false) (claims : g.claims = []) (unrefused : g.refused = false)
    (e : Error S) : g.Failed aside e :=
  ⟨same, stored, claims, fun refused => by rw [unrefused] at refused; cases refused⟩

theorem Stage.failed_start (e : Error S) : (start : Stage S).Failed [] e :=
  .of_idle (g := start) rfl rfl rfl rfl e

/-- The points of secrets are those under which proofs with these secrets are kept. -/
theorem pointsOf_secrets {proofs : List (Proof S)} {ys : List S.Point}
    (points : Proof.ys proofs = .ok ys) : pointsOf S (proofs.map (·.secret)) = ys := by
  have each := mapM_eq_ok.1 points
  clear points
  induction each with
  | nil => rfl
  | @cons p y rest ys point _ ih =>
    have found : S.hashToPoint? p.secret.toBytes = some y := elim_eq_ok.1 point
    have first := List.filterMap_cons_some (f := fun s => S.hashToPoint? (Secret.toBytes s))
      (l := rest.map (·.secret)) found
    exact first.trans (congrArg _ ih)

theorem points_of_rows {proofs : List (Proof S)} {status : ProofStatus} {mintId : Option String}
    {rows : List (ProofRow S)} (made : ProofRow.ofProofs proofs status mintId = .ok rows) :
    rows.map (·.y) = pointsOf S (proofs.map (·.secret)) :=
  (pointsOf_secrets (ProofRow.ys_of_ofProofs made)).symm

/-- Of rows to keep and rows to send, the reserved ones are those to send, if these are. -/
theorem asideAfter_update {keep send : List (Proof S)} {kept sent : List (ProofRow S)}
    (keepRows : ProofRow.ofProofs keep .unspent none = .ok kept)
    (sendRows : ProofRow.ofProofs send .reserved none = .ok sent) :
    ((kept ++ sent).filter (·.status = .reserved)).map (·.y) = sent.map (·.y) := by
  have none : kept.filter (·.status = .reserved) = [] := by
    rw [List.filter_eq_nil_iff]
    intro row mem
    rw [(ProofRow.of_mem_ofProofs keepRows mem).2.2.1]
    decide
  have all : sent.filter (·.status = .reserved) = sent := by
    rw [List.filter_eq_self]
    intro row mem
    rw [(ProofRow.of_mem_ofProofs sendRows mem).2.2.1]
    decide
  rw [List.filter_append, none, all, List.nil_append]

theorem ends_splitInto (settings : Settings) {status : ProofStatus}
    (free : status = .unspent ∨ status = .reserved) (proofs : List (Proof S)) (amount : Amount)
    (undrawn : g.drawn = []) (unstored : g.stored = false) (idle : g.claims = [])
    (unrefused : g.refused = false)
    (given : ∀ ys, Proof.ys proofs = .ok ys → own.getD g.aside = ys) :
    g.Ends own (splitInto settings status proofs amount) (fun parts g' => g'.Exchanged status parts)
      fun e g' => g'.Failed g.aside e := by
  have failed (e : Error S) : g.Failed g.aside e := .of_idle rfl unstored idle unrefused e
  unfold splitInto
  refine .guard (failed _) fun _ => ?_
  refine .guard (failed _) fun _ => ?_
  refine .unnoticed (.lift _) failed fun total => ?_
  refine .guard (failed _) fun _ => ?_
  refine .seq (.lift (fun ys points => ?_) fun e _ => failed e)
  have given := given ys (mapError_eq_ok.1 points)
  refine .claiming idle unrefused given ⟨rfl, unstored, idle, fun _ => rfl⟩ ?_
  -- Until the update at the end only secrets are drawn.
  have released (secrets : List Secret) (e : Error S) :
      Stage.Failed g.aside e { g.withDrawn secrets with claims := [] } :=
    ⟨rfl, unstored, rfl, (failed e).refused⟩
  refine .seq ((ends_prepareSplit settings proofs amount _).mono ?_ ?_)
  · rintro prepared _ rfl
    refine .unnoticed (.askMint _) (fun e => ⟨rfl, released _ e⟩) fun response => ?_
    refine .unnoticed (.lift _) (fun e => ⟨rfl, released _ e⟩) fun _ => ?_
    refine .unnoticed (.fetchKeysOf _) (fun e => ⟨rfl, released _ e⟩) fun keyset => ?_
    refine .seq (.lift (fun keep keepMade => ?_) fun e _ => ⟨rfl, released _ e⟩)
    refine .seq (.lift (fun send sendMade => ?_) fun e _ => ⟨rfl, released _ e⟩)
    refine .seq (.lift (fun kept keepRows => ?_) fun e _ => ⟨rfl, released _ e⟩)
    refine .seq (.lift (fun sent sendRows => ?_) fun e _ => ⟨rfl, released _ e⟩)
    have keepRows := mapError_eq_ok.1 keepRows
    have sendRows := mapError_eq_ok.1 sendRows
    have secrets : (keep ++ send).map (·.secret) =
        g.drawn ++ (prepared.keep.secrets ++ prepared.send.secrets) := by
      rw [undrawn, List.nil_append, List.map_append,
        Premint.secrets_of_proofs (mapError_eq_ok.1 keepMade),
        Premint.secrets_of_proofs (mapError_eq_ok.1 sendMade)]
    refine .seq (.askStore ⟨unstored, given, ?_, ?_⟩ (fun _ _ => .pure ⟨rfl, ?_⟩)
      fun e _ => ⟨rfl, released _ _⟩)
    · intro row mem
      rcases List.mem_append.1 mem with mem | mem
      · exact .inl (ProofRow.of_mem_ofProofs keepRows mem).2.2.1
      · rw [(ProofRow.of_mem_ofProofs sendRows mem).2.2.1]
        exact free
    · show List.Sublist _
        (pointsOf S (g.drawn ++ (prepared.keep.secrets ++ prepared.send.secrets)))
      rw [← secrets, List.map_append, List.map_append, points_of_rows keepRows,
        points_of_rows sendRows, pointsOf, pointsOf, pointsOf, List.filterMap_append]
    · refine ⟨rfl, rfl, unrefused, secrets, ?_⟩
      rintro rfl
      rw [ProofRow.ys_of_ofProofs sendRows]
      exact congrArg Except.ok (asideAfter_update keepRows sendRows).symm
  · rintro e _ ⟨secrets, rfl⟩
    exact ⟨rfl, released secrets e⟩

theorem ends_split (settings : Settings) {proofs : List (Proof S)}
    (given : ∀ ys, Proof.ys proofs = .ok ys → own = some ys) (amount : Amount) :
    Stage.start.Ends own (split settings proofs amount) (fun _ g => g.refused = false)
      fun e g => g.refused = true → e = Operation.beingSpent := by
  have points (ys : List S.Point) (h : Proof.ys proofs = .ok ys) :
      own.getD (Stage.start : Stage S).aside = ys := by
    rw [given ys h]
    rfl
  refine (ends_splitInto settings (.inl rfl) proofs amount rfl rfl rfl rfl points).mono ?_ ?_
  · exact fun parts g exchanged => exchanged.refused
  · exact fun e g failed => failed.refused

/-! ## Sends -/

/-- What a send has come to when it succeeds: of what it hands out, all is set aside if it was asked
to, and all is new if it has exchanged something. -/
structure Stage.Sent (reserve : Bool) (send : List (Proof S)) (g : Stage S) : Prop where
  refused : g.refused = false
  drawn : g.stored = true → ∀ p ∈ send, p.secret ∈ g.drawn
  aside : reserve = true → Proof.ys send = .ok g.aside

theorem ends_reserveOrPending {ys : List S.Point} {Q : Unit → Stage S → Prop}
    (ok : Q () { Stage.start with aside := ys }) :
    Stage.start.Ends own (reserveOrPending ys) Q fun e g' => g'.Failed [] e := by
  refine .seq (.tryStore ⟨rfl, rfl⟩ fun answer _ => ?_)
  rcases answer with (detail | _ | y | _) | _
  · exact .throw (Stage.failed_start _)
  · exact .throw (Stage.failed_start _)
  · exact .throw ⟨rfl, rfl, rfl, fun _ => rfl⟩
  · exact .throw (Stage.failed_start _)
  · exact .pure ok

/-- Proofs are set aside and split; if that fails they are freed, which does not fail. -/
theorem ends_exchange (settings : Settings) (selected : List (Proof S)) (amount : Amount)
    (reserve : Bool) :
    Stage.start.Ends none
      (do
        let ys ← Operation.ysOf selected
        reserveOrPending ys
        let status := if reserve then ProofStatus.reserved else .unspent
        tryCatch (splitInto settings status selected amount) fun e => do
          Operation.askStore (.unreserve ys)
          throw e)
      (fun parts g => g.Sent reserve parts.2) fun e g => g.Failed [] e := by
  refine .seq (.lift (fun ys points => ?_) fun e _ => Stage.failed_start e)
  have points := mapError_eq_ok.1 points
  refine .seq (ends_reserveOrPending ?_)
  have given (ys' : List S.Point) (h : Proof.ys selected = .ok ys') :
      (none : Option (List S.Point)).getD (Stage.aside { Stage.start with aside := ys }) = ys' :=
    Except.ok.inj (points.symm.trans h)
  have free : (if reserve then ProofStatus.reserved else .unspent) = .unspent ∨
      (if reserve then ProofStatus.reserved else .unspent) = .reserved := by
    cases reserve
    · exact .inl rfl
    · exact .inr rfl
  refine .tryCatch ((ends_splitInto settings free selected amount rfl rfl rfl rfl given).mono
    (fun parts g exchanged => ?_) fun _ _ failed => failed) fun e g failed => ?_
  · refine ⟨exchanged.refused, fun _ p mem => ?_, ?_⟩
    · rw [← exchanged.drawn, List.map_append]
      exact List.mem_append_right _ (List.mem_map_of_mem mem)
    · rintro rfl
      exact exchanged.aside rfl
  · refine .seq (.askStore ⟨failed.aside, failed.claims, failed.stored⟩ (fun _ _ => ?_) ?_)
    · exact .throw ⟨rfl, failed.stored, failed.claims, failed.refused⟩
    · exact fun _ impossible => nomatch impossible

theorem ends_splitToSend (settings : Settings) (available : List (Proof S)) (amount : Amount)
    (reserve : Bool) :
    Stage.start.Ends none (splitToSend settings available amount reserve)
      (fun parts g => g.Sent reserve parts.2) fun e g => g.Failed [] e := by
  have failed := Stage.failed_start (S := S)
  unfold splitToSend
  refine .guard (failed _) fun _ => ?_
  refine .unnoticed (.lift _) failed fun selected => ?_
  refine .unnoticed (.lift _) failed fun total => ?_
  refine .ite (fun _ => ends_exchange settings selected amount reserve) fun _ => ?_
  refine .unnoticed (.denominations settings) failed fun d => ?_
  refine .ite (fun _ => ?_) fun _ => ends_exchange settings selected amount reserve
  -- The proofs are handed out as they are.
  cases reserve with
  | true =>
    refine .seq (.lift (fun ys points => ?_) fun e _ => failed e)
    refine .seq (ends_reserveOrPending (.pure ⟨rfl, ?_, fun _ => mapError_eq_ok.1 points⟩))
    exact fun stored => nomatch stored
  | false => exact .pure ⟨rfl, fun stored => (nomatch stored), fun asked => (nomatch asked)⟩

theorem ends_send (settings : Settings) (amount : Amount) (memo : Option String) :
    Stage.start.Ends none (send (S := S) settings amount memo)
      (fun token g => g.Sent true token.proofs)
      fun e g => g.refused = true → e = Operation.beingSpent := by
  have unspent : Unnoticed (S := S) unspentProofs :=
    .bind (fun _ _ => .askStore trivial (fun _ _ => rfl) fun _ _ => rfl) fun _ => .pure _
  refine .unnoticed unspent (fun e refused => (nomatch refused)) fun available => ?_
  refine .seq ((ends_splitToSend settings available amount true).mono ?_ fun _ _ failed =>
    failed.refused)
  rintro ⟨keep, sent⟩ g handed
  refine .lift (fun token made => ?_) fun e _ refused => ?_
  · have made := mapError_eq_ok.1 made
    unfold Token.ofProofs at made
    split at made
    · cases made
    · cases made
      have all : (⟨[⟨settings.mintUrl, sent⟩], memo⟩ : Token S).proofs = sent :=
        List.append_nil sent
      rw [all]
      exact handed
  · rw [handed.refused] at refused
    cases refused

/-! ## Payments -/

theorem ends_changeProofs (settings : Settings) (blank : Premint S) (promises : List (Promise S))
    (g : Stage S) :
    g.Ends own (changeProofs settings blank promises)
      (fun change g' => g' = g ∧ (change.map (·.secret)).Sublist blank.secrets)
      (fun _ g' => g' = g) := by
  unfold changeProofs
  refine .guard rfl fun _ => ?_
  cases promises with
  | nil => exact .pure ⟨rfl, List.nil_sublist _⟩
  | cons first rest =>
    refine .guard rfl fun _ => ?_
    refine .unnoticed (.fetchKeysOf _) (fun _ => rfl) fun keyset => ?_
    refine .lift (fun change made => ⟨rfl, ?_⟩) fun _ _ => rfl
    rw [Premint.secrets_of_proofs (mapError_eq_ok.1 made)]
    exact (List.take_sublist _ _).map _

theorem ends_pay (lightning : Lightning) (settings : Settings) {proofs : List (Proof S)}
    (given : ∀ ys, Proof.ys proofs = .ok ys → own = some ys) (request : String)
    (feeReserve : Amount) :
    Stage.start.Ends own (pay lightning settings proofs request feeReserve)
      (fun _ g => g.refused = false) fun e g => g.refused = true → e = Operation.beingSpent := by
  have unrefused (e : Error S) (refused : (Stage.start : Stage S).refused = true) :
      e = Operation.beingSpent := nomatch refused
  unfold pay
  refine .guard (unrefused _) fun _ => ?_
  refine .guard (unrefused _) fun _ => ?_
  rcases lightning.paymentHash? request with _ | hash
  · exact .throw (unrefused _)
  refine .unnoticed (.lift _) unrefused fun total => ?_
  refine .seq (.lift (fun ys points => ?_) fun e _ => unrefused e)
  have given := given ys (mapError_eq_ok.1 points)
  subst given
  refine .claiming rfl rfl rfl (fun _ => rfl) ?_
  refine .unnoticed .currentKeyset (fun e => ⟨rfl, unrefused e⟩) fun keyset => ?_
  refine .seq ((ends_premint keyset.id _ _).mono ?_ ?_)
  · rintro blank _ rfl
    refine .seq (.freshMeltId fun id => ?_)
    refine .unnoticed (.askMint _) (fun e => ⟨rfl, unrefused e⟩) fun response => ?_
    refine .guard ⟨rfl, unrefused _⟩ fun _ => ?_
    refine .seq ((ends_changeProofs settings blank response.change _).mono ?_ ?_)
    · rintro change _ ⟨rfl, secrets⟩
      refine .unnoticed (.lift _) (fun e => ⟨rfl, unrefused e⟩) fun changeTotal => ?_
      refine .seq (.lift (fun rows made => ?_) fun e _ => ⟨rfl, unrefused e⟩)
      have made := mapError_eq_ok.1 made
      refine .seq (.askStore ⟨rfl, rfl, fun row mem => ?_, ?_⟩ (fun _ _ => ?_)
        fun e _ => ⟨rfl, unrefused _⟩)
      · exact .inl (ProofRow.of_mem_ofProofs made mem).2.2.1
      · rw [points_of_rows made]
        exact secrets.filterMap _
      · rcases total.sub? changeTotal with _ | amount
        · exact .throw ⟨rfl, unrefused _⟩
        · exact .seq (.askStore trivial (fun _ _ => .pure ⟨rfl, rfl⟩) fun e _ => ⟨rfl, unrefused _⟩)
    · rintro e _ rfl
      exact ⟨rfl, unrefused e⟩
  · rintro e _ ⟨secrets, rfl⟩
    exact ⟨rfl, unrefused e⟩

end Chaumian.Wallet
