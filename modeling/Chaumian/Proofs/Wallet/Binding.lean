import Chaumian.Proofs.Wallet.Origin

/-!
# Under which keyset a stored proof was made

A proof carries the identifier of a keyset, which is copied from the promise it was made of, while
its signature was unblinded with the key of a keyset that was looked up by the identifier of the
outputs. Nothing compares the two when proofs are minted or exchanged, only when change is taken
(`keyset_of_stored`): a mint that names another keyset than it was asked to sign under is believed
(`renamed_to_other`), while change that names more than one is refused.
-/

namespace Chaumian.Wallet

variable {S : Suite} {τ : Type}

/-! ## Change that names more than one keyset -/

/-- Promises that all name the same keyset. -/
def OneKeyset (promises : List (Promise S)) : Prop :=
  ∀ promise ∈ promises, ∀ other ∈ promises, promise.keysetId = other.keysetId

instance (promises : List (Promise S)) : Decidable (OneKeyset promises) :=
  inferInstanceAs (Decidable (∀ promise ∈ promises, ∀ other ∈ promises,
    promise.keysetId = other.keysetId))

/-- From one scene to another one, the mint has not replied to a payment that it made it with change
that names more than one keyset. -/
def Scene.Unmixed (x y : Scene S (τ × List (Reply S))) : Prop :=
  ∀ request response, ⟨.melt request, .ok response⟩ ∈ y.mint.2 →
    ⟨.melt request, .ok response⟩ ∈ x.mint.2 ∨ response.paid = false ∨ OneKeyset response.change

instance : IsPreorder (Scene S (τ × List (Reply S))) Scene.Unmixed where
  refl _ _ _ mem := .inl mem
  trans _ _ _ first second request response mem :=
    (second request response mem).elim (first request response) .inr

theorem Scene.Unmixed.one {x y : Scene S τ} {replies : List (Reply S)}
    (h : (x.noting []).Unmixed (y.noting replies)) {request : MeltRequest S}
    {response : MeltResponse S} (replied : ⟨.melt request, .ok response⟩ ∈ replies)
    (paid : response.paid = true) : OneKeyset response.change := by
  obtain old | unpaid | one := h request response replied
  · cases old
  · rw [unpaid] at paid
    cases paid
  · exact one

theorem Scene.Unmixed.of_reply {x : Scene S (τ × List (Reply S))} {reply : Reply S}
    (plain : ∀ request response, ⟨.melt request, .ok response⟩ = reply →
      response.paid = false ∨ OneKeyset response.change) (mint : τ) :
    x.Unmixed { x with mint := (mint, x.mint.2 ++ [reply]) } := by
  intro request response mem
  obtain old | new := List.mem_append.1 mem
  · exact .inl old
  · exact .inr (plain request response (List.mem_singleton.1 new))

theorem Scene.Unmixed.of_replies {x y : Scene S (τ × List (Reply S))}
    (same : y.mint.2 = x.mint.2) : x.Unmixed y :=
  fun _ _ mem => .inl (same ▸ mem)

namespace World

variable {world : World S τ}

/-- Change that names more than one keyset is refused before anything is done with it. -/
theorem ends_changeProofs_mixed {settings : Settings} {blank : Premint S}
    {promises : List (Promise S)} (mixed : ¬OneKeyset promises)
    (x : Scene S (τ × List (Reply S))) :
    world.recorded.Ends (changeProofs settings blank promises) x (fun _ _ => False)
      fun e y => (∃ text, e = .malformedResponse text) ∧ y = x := by
  unfold changeProofs
  refine .guard (fun _ => ⟨⟨_, rfl⟩, rfl⟩) fun _ => ?_
  cases promises with
  | nil => exact absurd (fun _ mem => nomatch mem) mixed
  | cons first rest =>
    refine .guard (fun _ => ⟨⟨_, rfl⟩, rfl⟩) fun one => absurd ?_ mixed
    have all : ∀ promise ∈ first :: rest, promise.keysetId = first.keysetId := by simpa using one
    exact fun promise mem other mem' => (all promise mem).trans (all other mem').symm

theorem unmixed_askStore (call : StoreCall S) :
    world.recorded.Within Scene.Unmixed (Operation.askStore call) :=
  fun _ => .askStore (fun _ _ _ => .of_replies rfl) fun _ _ _ => .of_replies rfl

theorem registers_unmixed : world.recorded.Registers Scene.Unmixed := by
  refine .of_addKeyset (fun _ _ => .of_replies rfl) (fun call told x => ?_) fun keyset =>
    unmixed_askStore (.addKeyset keyset)
  -- A call that only tells something is no payment.
  have plain (reply : Reply S) (this : reply.1 = call) (request : MeltRequest S)
      (response : MeltResponse S) (same : ⟨.melt request, .ok response⟩ = reply) :
      response.paid = false ∨ OneKeyset response.change := by
    rw [← this, ← same] at told
    exact told.elim
  exact .askRecorded (fun _ => .of_reply (plain _ rfl)) fun _ => .of_reply (plain _ rfl)

theorem unmixed_changeProofs (settings : Settings) (blank : Premint S)
    (promises : List (Promise S)) :
    world.recorded.Within Scene.Unmixed (changeProofs settings blank promises) := by
  unfold changeProofs
  refine .guard ?_
  cases promises with
  | nil => exact .pure _
  | cons first rest => exact .guard (.bind (registers_unmixed.fetchKeysOf _) fun _ => .lift _)

/-- If a payment that the mint has made comes with change that names more than one keyset, paying
fails, and no proof is stored. -/
theorem ends_pay_mixed (lightning : Lightning) (settings : Settings) (proofs : List (Proof S))
    (request : String) (feeReserve : Amount) (x : Scene S (τ × List (Reply S))) :
    world.recorded.Ends (pay lightning settings proofs request feeReserve) x
      (fun _ y => x.Unmixed y) fun e y =>
        x.Unmixed y ∨ (∃ text, e = .malformedResponse text) ∧ y.proofs = x.proofs := by
  have start : x.Unmixed x := refl x
  unfold pay
  refine .guard (fun _ => .inl start) fun _ => .guard (fun _ => .inl start) fun _ => ?_
  rcases lightning.paymentHash? request with _ | hash
  · exact .throw (.inl start)
  refine .seq (.lift (fun total _ => ?_) fun _ _ => .inl start)
  refine .seq (.lift (fun ys _ => ?_) fun _ _ => .inl start)
  refine .claiming (.inl start) ?_
  refine .seq (((registers_unmixed.currentKeyset _).and (Quiet.registers.currentKeyset _)).mono ?_
    fun _ _ h => .inl h.1)
  rintro k x₁ ⟨before, same⟩
  have same : x₁.proofs = x.proofs := congrArg (fun b => b.1.map (·.row.proof)) same.books
  refine .seq ((ends_premint k.id _ x₁).mono ?_ ?_)
  · rintro blank _ ⟨-, drawn, rfl⟩
    refine .seq (.freshMeltId (.seq (.askRecorded (fun response mint => ?_) fun e mint => .inl ?_)))
    · -- What is done after the check of the change makes no payment.
      by_cases unmixed : response.paid = false ∨ OneKeyset response.change
      · refine World.Ends.mono (Within.since (R := Scene.Unmixed) ?_ ?_) (fun _ _ h => h)
          fun _ _ h => .inl h
        · refine .guard (.bind (unmixed_changeProofs _ _ _) fun change => ?_)
          refine .bind (.lift _) fun left => .bind (.lift _) fun rows => ?_
          refine .bind (unmixed_askStore _) fun _ => ?_
          rcases total.sub? left with _ | amount
          · exact .throw _
          · exact .bind (unmixed_askStore _) fun _ => .pure _
        · refine IsTrans.trans _ _ _ before (.of_reply (fun _ _ same => ?_) mint)
          cases same
          exact unmixed
      · obtain ⟨paid, mixed⟩ := not_or.1 unmixed
        refine .guard (fun refused => absurd (by simpa using refused) paid) fun _ => ?_
        refine .seq ((ends_changeProofs_mixed mixed _).mono (fun _ _ h => h.elim) ?_)
        rintro e _ ⟨malformed, rfl⟩
        exact .inr ⟨malformed, same⟩
    · refine IsTrans.trans _ _ _ before (.of_reply (fun _ _ same => ?_) mint)
      cases same
  · rintro _ _ ⟨n, rfl⟩
    exact .inl before

end World

/-- Whatever the mint answers and however the command ends, if it is not the command to store given
proofs: a proof that has come into the store was unblinded, and checked where that is asked for,
with the key for its amount of a keyset that the wallet has stored, or was told to be the current
one, and that has been verified unless the wallet began with it. If it was signed for an invoice or
in exchange for others, that is the keyset of the output at its place, and the proof carries its
identifier just when the promise at that place names it, which nothing checks. If it is change, all
promises of the reply name that keyset, and the proof carries its identifier in any case; where they
do not all name one, paying fails and no proof is stored. -/
theorem keyset_of_stored {world : World S τ} {lightning : Lightning} {settings : Settings}
    {command : Command S} (other : ∀ proofs status mintId, command ≠ .add proofs status mintId)
    {x y : Scene S τ} {outcome : Except (Error S) (Outcome S)}
    (ran : world.perform (command.operation lightning settings) x = (outcome, y)) :
    (∀ p ∈ y.proofs, p ∉ x.proofs → ∃ (k : Keyset S) (output : Output S) (promise : Promise S),
      k.Unblinds settings.verifyDleq output promise p ∧
      (x.wallet.store.keyset? k.id = some k ∨ k.verifies = true) ∧
      (Signed (world.replies (command.operation lightning settings) x) y.wallet.store k output
            promise ∧
          output.keysetId = k.id ∧ (p.keysetId = k.id ↔ promise.keysetId = output.keysetId) ∨
        Changed (world.replies (command.operation lightning settings) x) y.wallet.store k output
            promise ∧
          p.keysetId = k.id)) ∧
    ∀ proofs invoice reserve, command = .pay proofs invoice reserve →
      ∀ (request : MeltRequest S) (response : MeltResponse S), ⟨.melt request, .ok response⟩ ∈
          world.replies (command.operation lightning settings) x → response.paid = true →
        OneKeyset response.change ∨
          (∃ text, outcome = .error (.malformedResponse text)) ∧ y.proofs = x.proofs := by
  constructor
  · intro p stored new
    have gained : Scene.Gains settings.verifyDleq (x.noting [])
        (y.noting (world.replies (command.operation lightning settings) x)) :=
      (World.gains_operation other (x.noting [])).replies.of_perform
        (Q := fun _ y => Scene.Gains settings.verifyDleq (x.noting [])
          (y.noting (world.replies (command.operation lightning settings) x))) ran
    cases (gained.made p stored).resolve_left new with
    | issued signed unblinds own =>
      refine ⟨_, _, _, unblinds, signed.verified gained.verified, .inl ⟨signed, own, ?_⟩⟩
      rw [unblinds.keysetId, own]
    | change changed unblinds =>
      exact ⟨_, _, _, unblinds, gained.verified _ _ changed.stored,
        .inr ⟨changed, changed.named unblinds⟩⟩
  · rintro proofs invoice reserve rfl request response replied paid
    have ended : world.recorded.Ends
        ((Command.pay proofs invoice reserve).operation lightning settings) (x.noting [])
        (fun _ y => (x.noting []).Unmixed y)
        fun e y => (x.noting []).Unmixed y ∨
          (∃ text, e = .malformedResponse text) ∧ y.proofs = x.proofs :=
      .map (World.ends_pay_mixed lightning settings proofs invoice reserve (x.noting []))
    cases outcome with
    | ok result => exact .inl ((ended.replies.ok ran).one replied paid)
    | error e =>
      obtain unmixed | ⟨⟨text, rfl⟩, same⟩ := ended.replies.error ran
      · exact .inl (unmixed.one replied paid)
      · exact .inr ⟨⟨text, rfl⟩, same⟩

end Chaumian.Wallet

namespace Chaumian.Sample

open Wallet

/-- Another identifier than that of the sample keyset. -/
def otherId : KeysetId := ⟨[0, 0, 0, 0, 0, 0, 0, 0, 0], rfl⟩

/-- A mint that signs all that it is asked to exchange, and names a keyset of its own choice. -/
def naming (id : KeysetId) : World suite Unit where
  answer
    | .split request, _ =>
      (.ok ⟨request.outputs.filterMap fun o => (secretKeyset.get? o.amount).bind fun pair =>
        (suite.mul? pair.secretKey o.blinded).map fun signature =>
          ⟨o.amount, id, signature, none⟩⟩, ())
    | _, _ => (.error .keysetNotFound, ())
  draw n := (secret (10 + n), scalar n)
  meltId n := s!"payment {n}"

/-- What comes of exchanging a proof of 4 for 1 and 3 at that mint. -/
def renamed (id : KeysetId) : Except (Wallet.Error suite) (Outcome suite) × Scene suite Unit :=
  (naming id).perform ((Command.split [proof 4 0] (.clamp 3)).operation lightning .default)
    (scene [4, 8])

set_option maxRecDepth 4000

/-- Where the mint names the keyset it was asked to sign under, a new proof carries the identifier
of the keyset whose key unblinded it. -/
theorem keyset_of_renamed : ∃ p ∈ (renamed keyset.id).2.proofs, p ∉ (scene [4, 8]).proofs ∧
    p.keysetId = keyset.id ∧
    ∃ (k : Keyset suite) (output : Output suite) (promise : Promise suite),
      k.Unblinds true output promise p ∧
      ((scene [4, 8]).wallet.store.keyset? k.id = some k ∨ k.verifies = true) ∧
      (Signed ((naming keyset.id).replies
            ((Command.split [proof 4 0] (.clamp 3)).operation lightning .default) (scene [4, 8]))
            (renamed keyset.id).2.wallet.store k output promise ∧
          output.keysetId = k.id ∧ (p.keysetId = k.id ↔ promise.keysetId = output.keysetId) ∨
        Changed ((naming keyset.id).replies
            ((Command.split [proof 4 0] (.clamp 3)).operation lightning .default) (scene [4, 8]))
            (renamed keyset.id).2.wallet.store k output promise ∧
          p.keysetId = k.id) := by
  obtain ⟨p, stored, new, named⟩ : ∃ p ∈ (renamed keyset.id).2.proofs,
      p ∉ (scene [4, 8]).proofs ∧ p.keysetId = keyset.id := by
    decide +kernel
  have ran : (naming keyset.id).perform
      ((Command.split [proof 4 0] (.clamp 3)).operation lightning .default) (scene [4, 8]) =
      ((renamed keyset.id).1, (renamed keyset.id).2) := rfl
  exact ⟨p, stored, new, named, (keyset_of_stored (by simp) ran).1 p stored new⟩

/-- Where it names another one, the exchange succeeds as well, and the new proofs carry an
identifier that is not the one of the only keyset there is. -/
theorem renamed_to_other : (renamed otherId).1.isOk ∧
    (renamed otherId).2.wallet.store.keysetIds = [keyset.id] ∧
    ¬∀ p ∈ (renamed otherId).2.proofs, p ∉ (scene [4, 8]).proofs → p.keysetId = keyset.id := by
  decide +kernel

/-- A payment that was made, with change under two keysets. -/
def mixed : MeltResponse suite :=
  ⟨true, none, [⟨.clamp 1, keyset.id, scalar 9, none⟩, ⟨.clamp 1, otherId, scalar 9, none⟩]⟩

/-- A mint that makes every payment with that change. -/
def mixing : World suite Unit where
  answer
    | .melt _, _ => (.ok mixed, ())
    | _, _ => (.error .keysetNotFound, ())
  draw n := (secret (10 + n), scalar n)
  meltId n := s!"payment {n}"

/-- What comes of paying with a proof of 4 at that mint, where two outputs are sent for change. -/
def mixedPayment : Except (Wallet.Error suite) (Outcome suite) × Scene suite Unit :=
  mixing.perform ((Command.pay [proof 4 0] "invoice" (.clamp 4)).operation lightning .default)
    (scene [4, 8])

example : ¬OneKeyset mixed.change ∧ (mixedPayment.1 matches .error (.malformedResponse _)) ∧
    mixedPayment.2.proofs = (scene [4, 8]).proofs := by
  decide +kernel

end Chaumian.Sample
