import Chaumian.Proofs.Wallet.Registry

/-!
# What a mint is sent, and what it replies

Which calls of the mint an operation makes, and in which order, depends on the replies it is given
on the way. A mint that answers as another one and notes something of each of its replies has noted
it of just these by the end of the operation, which notices nothing of the notes
(`World.perform_noting`). So what is replied, and what is sent, can be followed by the rules for
scenes; looking things up sends only calls that tell something (`World.registers_told`).
-/

namespace Chaumian.Wallet

variable {S : Suite} {τ ν ε α : Type}

/-- A reply of the mint, with the call that it answers. -/
abbrev Reply (S : Suite) : Type := (call : MintCall S) × Except (Error S) call.Result

/-- The replies of the mint that the answer to a request is, one or none. -/
def Request.replied : (request : Request S) → request.Answer → List (Reply S)
  | .mint call, answer => [⟨call, answer⟩]
  | .store _, _ | .memory _, _ | .fresh _, _ => []

/-- The calls of the mint that a request is, one or none. -/
def Request.sent : Request S → List (MintCall S)
  | .mint call => [call]
  | .store _ | .memory _ | .fresh _ => []

namespace World

/-- The replies of the mint to some steps that are begun in a scene, in order. -/
def replied (world : World S τ) : Steps S α → Scene S τ → List (Reply S)
  | .done _, _ => []
  | .ask request next, x =>
    request.replied (world.meet request x).1 ++
      world.replied (next (world.meet request x).1) (world.meet request x).2

/-- The replies of the mint to an operation. -/
def replies (world : World S τ) (op : ExceptT ε (Steps S) α) (x : Scene S τ) : List (Reply S) :=
  world.replied op.run x

/-- The calls of the mint that some steps make when they are begun in a scene, in order. -/
def calls (world : World S τ) : Steps S α → Scene S τ → List (MintCall S)
  | .done _, _ => []
  | .ask request next, x =>
    request.sent ++ world.calls (next (world.meet request x).1) (world.meet request x).2

/-- The calls of the mint that an operation makes. -/
def sent (world : World S τ) (op : ExceptT ε (Steps S) α) (x : Scene S τ) : List (MintCall S) :=
  world.calls op.run x

/-- The same mint, which notes something of each of its replies. -/
def noting (world : World S τ) (note : Reply S → ν) : World S (τ × List ν) where
  answer call mint :=
    ((world.answer call mint.1).1, (world.answer call mint.1).2,
      mint.2 ++ [note ⟨call, (world.answer call mint.1).1⟩])
  draw := world.draw
  meltId := world.meltId

/-- The same mint, which notes its replies as they are. -/
abbrev recorded (world : World S τ) : World S (τ × List (Reply S)) := world.noting id

/-- The same mint, which keeps a list of the calls it is sent. -/
def logged (world : World S τ) : World S (τ × List (MintCall S)) where
  answer call mint := ((world.answer call mint.1).1, (world.answer call mint.1).2, mint.2 ++ [call])
  draw := world.draw
  meltId := world.meltId

end World

/-- A scene whose mint has noted some things. -/
def Scene.noting (x : Scene S τ) (notes : List ν) : Scene S (τ × List ν) where
  wallet := x.wallet
  mint := (x.mint, notes)
  drawn := x.drawn
  named := x.named

/-- A scene whose mint has kept a list of calls. -/
def Scene.logging (x : Scene S τ) (log : List (MintCall S)) : Scene S (τ × List (MintCall S)) where
  wallet := x.wallet
  mint := (x.mint, log)
  drawn := x.drawn
  named := x.named

namespace World

variable {world : World S τ} {note : Reply S → ν} {x : Scene S τ}

theorem meet_noting (request : Request S) (x : Scene S τ) (notes : List ν) :
    (world.noting note).meet request (x.noting notes) =
      ((world.meet request x).1, (world.meet request x).2.noting
        (notes ++ (request.replied (world.meet request x).1).map note)) := by
  cases request with
  | mint call => rfl
  | store call | memory call =>
    rw [Request.replied, List.map_nil, List.append_nil]
    rfl
  | fresh call =>
    rw [Request.replied, List.map_nil, List.append_nil]
    cases call <;> rfl

/-- A mint that notes things is noticed by nobody, and its notes are of the replies it has given. -/
theorem perform_noting (op : ExceptT ε (Steps S) α) (x : Scene S τ) (notes : List ν) :
    (world.noting note).perform op (x.noting notes) =
      ((world.perform op x).1,
        (world.perform op x).2.noting (notes ++ (world.replies op x).map note)) := by
  -- The steps may go on differently for each answer, so the induction is over them.
  have whole (steps : Steps S (Except ε α)) (x : Scene S τ) (notes : List ν) :
      steps.run (world.noting note).meet (x.noting notes) =
        ((steps.run world.meet x).1,
          (steps.run world.meet x).2.noting (notes ++ (world.replied steps x).map note)) := by
    induction steps generalizing x notes with
    | done outcome =>
      rw [replied, List.map_nil, List.append_nil]
      rfl
    | ask request next ih =>
      rw [Program.run, meet_noting, Program.run, replied, List.map_append, ← List.append_assoc]
      exact ih _ _ _
  exact whole op.run x notes

/-- What an operation ends in before a mint that notes things says what has been noted. -/
theorem Ends.noted {op : ExceptT ε (Steps S) α} {Q : α → Scene S (τ × List ν) → Prop}
    {E : ε → Scene S (τ × List ν) → Prop} (h : (world.noting note).Ends op (x.noting []) Q E) :
    world.Ends op x (fun a y => Q a (y.noting ((world.replies op x).map note)))
      fun e y => E e (y.noting ((world.replies op x).map note)) := by
  unfold Ends at h ⊢
  rw [perform_noting, List.nil_append] at h
  rcases ran : world.perform op x with ⟨e | a, y⟩
  · rw [ran] at h
    exact h
  · rw [ran] at h
    exact h

theorem Ends.replies {op : ExceptT ε (Steps S) α} {Q : α → Scene S (τ × List (Reply S)) → Prop}
    {E : ε → Scene S (τ × List (Reply S)) → Prop}
    (h : world.recorded.Ends op (x.noting []) Q E) :
    world.Ends op x (fun a y => Q a (y.noting (world.replies op x)))
      fun e y => E e (y.noting (world.replies op x)) := by
  have noted := h.noted
  rw [List.map_id] at noted
  exact noted

/-- A mint that notes its replies may reply anything, and notes just that. -/
theorem Ends.askRecorded {call : MintCall S} {x : Scene S (τ × List (Reply S))}
    {Q : call.Result → Scene S (τ × List (Reply S)) → Prop}
    {E : Error S → Scene S (τ × List (Reply S)) → Prop}
    (ok : ∀ result mint, Q result { x with mint := (mint, x.mint.2 ++ [⟨call, .ok result⟩]) })
    (error : ∀ e mint, E e { x with mint := (mint, x.mint.2 ++ [⟨call, .error e⟩]) }) :
    world.recorded.Ends (Operation.askMint call) x Q E := by
  refine .askMint (fun result mint answered => ?_) fun e mint answered => ?_
  · obtain ⟨answer, rfl⟩ := Prod.mk.inj answered
    rw [id_eq, answer]
    exact ok result _
  · obtain ⟨answer, rfl⟩ := Prod.mk.inj answered
    rw [id_eq, answer]
    exact error e _

/-! ## The calls alone -/

/-- The calls that are made are those that are replied to. -/
theorem sent_eq_map (op : ExceptT ε (Steps S) α) (x : Scene S τ) :
    world.sent op x = (world.replies op x).map (·.1) := by
  have whole (steps : Steps S (Except ε α)) (x : Scene S τ) :
      world.calls steps x = (world.replied steps x).map (·.1) := by
    induction steps generalizing x with
    | done outcome => rfl
    | ask request next ih =>
      rw [calls, replied, List.map_append, ← ih]
      cases request <;> rfl
  exact whole op.run x

theorem answer_logged {call : MintCall S} {answer : Except (Error S) call.Result} {mint mint' : τ}
    (answered : world.answer call mint = (answer, mint')) (log : List (MintCall S)) :
    world.logged.answer call (mint, log) = (answer, (mint', log ++ [call])) := by
  show ((world.answer call mint).1, (world.answer call mint).2, log ++ [call]) = _
  rw [answered]

/-- A mint that keeps a list is noticed by nobody, and its list is of the calls that were made. -/
theorem perform_logged (op : ExceptT ε (Steps S) α) (x : Scene S τ) (log : List (MintCall S)) :
    world.logged.perform op (x.logging log) =
      ((world.perform op x).1, (world.perform op x).2.logging (log ++ world.sent op x)) := by
  have noted : (world.noting fun reply => reply.1).perform op (x.noting log) = _ :=
    perform_noting op x log
  rw [sent_eq_map]
  exact noted

theorem sent_of_logged {op : ExceptT ε (Steps S) α} {outcome : Except ε α}
    {y : Scene S (τ × List (MintCall S))}
    (ran : world.logged.perform op (x.logging []) = (outcome, y)) : world.sent op x = y.mint.2 := by
  rw [perform_logged] at ran
  exact congrArg (·.2.mint.2) ran

/-- What an operation ends in before a mint that keeps a list says what has been sent. -/
theorem Ends.sent {op : ExceptT ε (Steps S) α}
    {Q : α → Scene S (τ × List (MintCall S)) → Prop}
    {E : ε → Scene S (τ × List (MintCall S)) → Prop}
    (h : world.logged.Ends op (x.logging []) Q E) :
    world.Ends op x (fun a y => Q a (y.logging (world.sent op x)))
      fun e y => E e (y.logging (world.sent op x)) := by
  have noted : (world.noting fun reply => reply.1).Ends op (x.noting []) Q E := h
  rw [sent_eq_map]
  exact noted.noted

end World

/-- From one scene to another one the mint has been sent only calls of some kind. -/
def Scene.Sends (kind : MintCall S → Prop) (x y : Scene S (τ × List (MintCall S))) : Prop :=
  ∃ calls, y.mint.2 = x.mint.2 ++ calls ∧ ∀ call ∈ calls, kind call

instance (kind : MintCall S → Prop) :
    IsPreorder (Scene S (τ × List (MintCall S))) (Scene.Sends kind) where
  refl _ := ⟨[], (List.append_nil _).symm, nofun⟩
  trans _ _ _ := by
    rintro ⟨calls, same, each⟩ ⟨more, same', each'⟩
    refine ⟨calls ++ more, ?_, List.forall_mem_append.2 ⟨each, each'⟩⟩
    rw [same', same, List.append_assoc]

/-- Nothing has been sent if the list is the same. -/
theorem Scene.Sends.nothing {kind : MintCall S → Prop} {x y : Scene S (τ × List (MintCall S))}
    (same : y.mint.2 = x.mint.2) : x.Sends kind y :=
  ⟨[], by rw [same, List.append_nil], nofun⟩

namespace World

variable {world : World S τ} {kind : MintCall S → Prop}

/-- Asking the mint sends just this call, whatever it answers. -/
theorem sends_askMint {call : MintCall S} (this : kind call) :
    world.logged.Within (Scene.Sends kind) (Operation.askMint call) := by
  refine fun x => .askMint (fun result mint answered => ?_) fun e mint answered => ?_
  · obtain rfl := (congrArg Prod.snd answered).symm
    exact ⟨[call], rfl, List.forall_mem_singleton.2 this⟩
  · obtain rfl := (congrArg Prod.snd answered).symm
    exact ⟨[call], rfl, List.forall_mem_singleton.2 this⟩

/-- Looking things up sends only calls that tell something. -/
theorem registers_sends (tells : ∀ call : MintCall S, call.Tells → kind call) :
    world.logged.Registers (Scene.Sends kind) := by
  refine .of_addKeyset (fun _ _ => .nothing rfl) (fun call told => sends_askMint (tells call told))
    fun keyset x => (ends_learn keyset x).mono ?_ ?_
  · rintro _ _ ⟨-, rfl⟩
    exact .nothing rfl
  · rintro _ _ ⟨-, rfl⟩
    exact refl _

end World

/-- From one scene to another one the mint has been sent only calls that tell something. -/
def Scene.Told (x y : Scene S (τ × List (MintCall S))) : Prop :=
  ∃ calls, y.mint.2 = x.mint.2 ++ calls ∧ ∀ call ∈ calls, call.Tells

instance : IsPreorder (Scene S (τ × List (MintCall S))) Scene.Told :=
  inferInstanceAs (IsPreorder _ (Scene.Sends MintCall.Tells))

/-- Looking things up does not send anything else. -/
theorem World.registers_told {world : World S τ} : world.logged.Registers Scene.Told :=
  registers_sends fun _ tells => tells

end Chaumian.Wallet
