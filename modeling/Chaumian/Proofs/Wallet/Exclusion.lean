import Chaumian.Proofs.Wallet.SettingAside

/-!
# Proofs that are being spent are not handed out

Two things keep operations from the proofs of each other: what is set aside in the store, which all
wallets over it see, and what is claimed in a wallet's memory, which other operations of the wallet
see. Sends set aside the proofs that they exchange before they claim them. Payments and splits claim
proofs that they are given and set nothing aside.

`claims_exclude` says how far the two go together. A send that exchanges proofs needs both, and runs
into whichever another operation has. A send that hands out proofs as they are only sets them aside,
so that it does not notice a payment or a split that is at work on them: `handed_out_while_spent` is
a run in which it hands out a proof while a payment with it waits for the mint.
-/

namespace Chaumian.Wallet

variable {S : Suite} {ι ω : Type}

/-! ## Operations that spend proofs -/

/-- An operation of a wallet that spends proofs. -/
inductive Job (S : Suite) where
  | pay (lightning : Lightning) (proofs : List (Proof S)) (request : String) (feeReserve : Amount)
  | split (proofs : List (Proof S)) (amount : Amount)
  | splitToSend (available : List (Proof S)) (amount : Amount) (reserve : Bool)
  | send (amount : Amount) (memo : Option String)

namespace Job

/-- What it comes to. -/
@[reducible] def Result : Job S → Type
  | pay .. => Payment S
  | split .. => List (Proof S) × List (Proof S)
  | splitToSend .. => List (Proof S) × List (Proof S)
  | send .. => Token S

/-- The operation itself. -/
def operation (settings : Settings) : (job : Job S) → Operation S job.Result
  | pay lightning proofs request feeReserve =>
    Wallet.pay lightning settings proofs request feeReserve
  | split proofs amount => Wallet.split settings proofs amount
  | splitToSend available amount reserve => Wallet.splitToSend settings available amount reserve
  | send amount memo => Wallet.send settings amount memo

/-- The proofs that it hands out to be sent. -/
def handed : (job : Job S) → job.Result → List (Proof S)
  | splitToSend .., parts => parts.2
  | send .., token => token.proofs
  | _, _ => []

/-- Whether it is to set aside what it hands out. -/
def reserves : Job S → Bool
  | splitToSend _ _ reserve => reserve
  | send .. => true
  | _ => false

/-- The points of proofs that it spends without setting them aside. -/
def own : Job S → Option (List S.Point)
  | pay _ proofs _ _ => (Proof.ys proofs).toOption
  | split proofs _ => (Proof.ys proofs).toOption
  | _ => none

theorem ends (settings : Settings) (job : Job S) :
    Stage.start.Ends job.own (job.operation settings)
      (fun result g => g.Sent job.reserves (job.handed result))
      fun e g => g.refused = true → e = Operation.beingSpent := by
  have given {proofs : List (Proof S)} (ys : List S.Point) (points : Proof.ys proofs = .ok ys) :
      (Proof.ys proofs).toOption = some ys := by
    rw [points]
    rfl
  have nothing {g : Stage S} (unrefused : g.refused = false) : g.Sent false [] :=
    ⟨unrefused, fun _ _ none => (nomatch none), fun asked => nomatch asked⟩
  cases job with
  | pay lightning proofs request feeReserve =>
    exact (ends_pay lightning settings given request feeReserve).mono
      (fun _ _ unrefused => nothing unrefused) fun _ _ h => h
  | split proofs amount =>
    exact (ends_split settings given amount).mono
      (fun _ _ unrefused => nothing unrefused) fun _ _ h => h
  | splitToSend available amount reserve =>
    exact (ends_splitToSend settings available amount reserve).mono (fun _ _ sent => sent)
      fun _ _ failed => failed.refused
  | send amount memo => exact ends_send settings amount memo

end Job

/-! ## Claims and what is set aside -/

/-- What a wallet remembers as claimed is what its operations have claimed, each something else. An
operation claims proofs of its own or else what it has set aside, and others have not. -/
structure Claiming (wallet : ι → ω) (own : ι → Option (List S.Point)) (g : ι → Stage S)
    (x : Shared S ι ω) : Prop extends Consistent g x where
  claims : ∀ i, x.claims i = (g i).claims
  known : ∀ w p, p ∈ (x.memory w).claimed ↔ ∃ i, wallet i = w ∧ p ∈ (g i).claims.flatten
  exclusive : ∀ i j, i ≠ j → wallet i = wallet j →
    (g i).claims.flatten.Disjoint (g j).claims.flatten
  given : ∀ i ys, own i = some ys → (g i).claims.flatten ⊆ ys
  secured : ∀ i, own i = none → ∀ p ∈ (g i).claims.flatten,
    x.store.Taken p ∧ ∀ j, j ≠ i → p ∉ (g j).aside
  stored : ∀ i, x.HasStored i → (g i).stored = true

theorem Claiming.begin (wallet : ι → ω) (own : ι → Option (List S.Point)) {store : Store S}
    (orderly : store.Orderly) {memory : ω → Memory S} (idle : ∀ w, (memory w).claimed = []) :
    Claiming wallet own (fun _ => .start) ⟨store, memory, fun _ => [], fun _ => [], []⟩ where
  toConsistent := .begin orderly memory
  claims _ := rfl
  known w p := by
    rw [idle]
    exact ⟨fun nothing => (nomatch nothing), fun ⟨_, _, nothing⟩ => (nomatch nothing)⟩
  exclusive _ _ _ _ := List.disjoint_nil_left _
  given _ _ _ := List.nil_subset _
  secured _ _ _ none := nomatch none
  stored _ none := nomatch none

namespace Claiming

variable [DecidableEq ι] {wallet : ι → ω} {own : ι → Option (List S.Point)} {g : ι → Stage S}
  {s : Stage S} {i : ι} {x y : Shared S ι ω}

theorem stored_of_effect (h : Claiming wallet own g x) (effect : Effect (own i) i (g i) s x y)
    (j : ι) (has : y.HasStored j) : (Function.update g i s j).stored = true := by
  have same (exchanged : y.exchanged = x.exchanged) (stored : s.stored = (g i).stored) :
      (Function.update g i s j).stored = true := by
    rw [same_update (f := Stage.stored) stored]
    rw [Shared.HasStored, exchanged] at has
    exact h.stored j has
  cases effect with
  | nothing _ _ exchanged _ stored => exact same exchanged stored
  | reserve _ _ exchanged _ stored => exact same exchanged stored
  | free _ _ exchanged _ _ stored => exact same exchanged stored
  | update added meltId _ _ exchanged _ _ stored =>
    by_cases here : j = i
    · subst here
      rw [Function.update_self]
      exact stored
    · rw [Function.update_of_ne here]
      rw [Shared.HasStored, exchanged, List.map_append, List.mem_append] at has
      exact h.stored j (has.resolve_right fun latest => here (List.mem_singleton.1 latest))
  | draw _ _ _ _ exchanged _ stored => exact same exchanged stored

/-- What was claimed is still not free, and not set aside by another operation. -/
theorem still_secured (h : Claiming wallet own g x) (effect : Effect (own i) i (g i) s x y) {j : ι}
    (sends : own j = none) {p : S.Point} (mem : p ∈ (g j).claims.flatten) :
    y.store.Taken p ∧ ∀ k, k ≠ j → p ∉ (Function.update g i s k).aside := by
  obtain ⟨taken, other⟩ := h.secured j sends p mem
  refine ⟨h.still_taken effect taken fun unclaimed => ?_, fun k different => ?_⟩
  · by_cases here : i = j
    · subst here
      rw [unclaimed] at mem
      cases mem
    · exact other i here
  · by_cases here : k = i
    · subst here
      rw [Function.update_self]
      exact h.notMem_aside effect taken (other k different)
    · rw [Function.update_of_ne here]
      exact other k different

/-- Nothing is claimed or released. -/
theorem of_claims (h : Claiming wallet own g x) (effect : Effect (own i) i (g i) s x y)
    (consistent : Consistent (Function.update g i s) y) (claims : y.claims = x.claims)
    (memory : ∀ w, (y.memory w).claimed = (x.memory w).claimed)
    (same : s.claims = (g i).claims) : Claiming wallet own (Function.update g i s) y := by
  have same := same_update (f := Stage.claims) same
  refine ⟨consistent, ?_, ?_, ?_, ?_, ?_, h.stored_of_effect effect⟩
  · intro j
    rw [claims, same]
    exact h.claims j
  · intro w p
    simp only [same, memory]
    exact h.known w p
  · intro j k
    rw [same, same]
    exact h.exclusive j k
  · intro j
    rw [same]
    exact h.given j
  · intro j sends p mem
    rw [same] at mem
    exact h.still_secured effect sends mem

/-- What is claimed is claimed by a given operation of the wallet, or by another one. -/
theorem known_iff (h : Claiming wallet own g x) (i : ι) (w : ω) (p : S.Point) :
    p ∈ (x.memory w).claimed ↔ (wallet i = w ∧ p ∈ (g i).claims.flatten) ∨
      ∃ j, j ≠ i ∧ wallet j = w ∧ p ∈ (g j).claims.flatten := by
  rw [h.known, ← Function.exists_update_iff g fun j s => wallet j = w ∧ p ∈ s.claims.flatten,
    Function.update_eq_self]

/-- An operation claims or releases something. -/
theorem of_known (h : Claiming wallet own g x) (effect : Effect (own i) i (g i) s x y)
    (consistent : Consistent (Function.update g i s) y)
    (claims : y.claims = Function.update x.claims i s.claims)
    (known : ∀ w p, p ∈ (y.memory w).claimed ↔ (wallet i = w ∧ p ∈ s.claims.flatten) ∨
      ∃ j, j ≠ i ∧ wallet j = w ∧ p ∈ (g j).claims.flatten)
    (exclusive : ∀ j, j ≠ i → wallet j = wallet i → s.claims.flatten.Disjoint (g j).claims.flatten)
    (given : ∀ ys, own i = some ys → s.claims.flatten ⊆ ys)
    (aside : own i = none → s.claims.flatten ⊆ s.aside) :
    Claiming wallet own (Function.update g i s) y := by
  refine ⟨consistent, ?_, ?_, ?_, ?_, ?_, h.stored_of_effect effect⟩
  · intro j
    by_cases here : j = i
    · subst here
      rw [claims, Function.update_self, Function.update_self]
    · rw [claims, Function.update_of_ne here, Function.update_of_ne here]
      exact h.claims j
  · intro w p
    rw [known, Function.exists_update_iff g fun j s => wallet j = w ∧ p ∈ s.claims.flatten]
  · intro j k different same
    by_cases left : j = i
    · subst left
      rw [Function.update_self, Function.update_of_ne different.symm]
      exact exclusive k different.symm same.symm
    · by_cases right : k = i
      · subst right
        rw [Function.update_self, Function.update_of_ne left]
        exact (exclusive j left same).symm
      · rw [Function.update_of_ne left, Function.update_of_ne right]
        exact h.exclusive j k different same
  · exact (Function.forall_update_iff g fun j s => ∀ ys, own j = some ys →
      s.claims.flatten ⊆ ys).2 ⟨given, fun j _ => h.given j⟩
  · intro j sends p mem
    by_cases here : j = i
    · -- What has just been claimed is set aside for the operation that claims it.
      subst here
      rw [Function.update_self] at mem
      have mem : p ∈ (Function.update g j s j).aside := by
        rw [Function.update_self]
        exact aside sends mem
      exact ⟨consistent.taken j p mem, fun k different => consistent.apart different.symm mem⟩
    · rw [Function.update_of_ne here] at mem
      exact h.still_secured effect sends mem

section

variable [DecidableEq ω] {m : Memory S} {ys : List S.Point}

/-- Nobody has claimed what an operation claims. -/
theorem claim (h : Claiming wallet own g x) (effect : Effect (own i) i (g i) s x y)
    (consistent : Consistent (Function.update g i s) y)
    (memory : y.memory = Function.update x.memory (wallet i) m)
    (new : ∀ p ∈ ys, p ∉ (x.memory (wallet i)).claimed)
    (claimed : m.claimed = (x.memory (wallet i)).claimed ++ ys)
    (claims : y.claims = Function.update x.claims i s.claims) (idle : (g i).claims = [])
    (same : s.claims = [ys]) (aside : s.aside = (g i).aside)
    (spends : (own i).getD (g i).aside = ys) :
    Claiming wallet own (Function.update g i s) y := by
  have mine : s.claims.flatten = ys := by
    rw [same]
    exact List.append_nil ys
  have others (w : ω) (p : S.Point) : p ∈ (x.memory w).claimed ↔
      ∃ j, j ≠ i ∧ wallet j = w ∧ p ∈ (g j).claims.flatten := by
    rw [h.known_iff i, idle]
    exact or_iff_right fun impossible => nomatch impossible.2
  refine h.of_known effect consistent claims (fun w p => ?_) (fun j different same => ?_)
    (fun ys' owns => ?_) fun sends => ?_
  · rw [mine, ← others, memory]
    by_cases here : w = wallet i
    · subst here
      rw [Function.update_self, claimed, List.mem_append, or_comm]
      exact or_congr_left (and_iff_right rfl).symm
    · rw [Function.update_of_ne here]
      exact (or_iff_right fun impossible => here impossible.1.symm).symm
  · rw [mine]
    exact fun p here there => new p here ((others _ p).2 ⟨j, different, same, there⟩)
  · rw [mine, ← spends, owns]
    exact List.Subset.refl _
  · rw [mine, aside, ← spends, sends]
    exact List.Subset.refl _

/-- Nobody else has claimed what an operation releases. -/
theorem release (h : Claiming wallet own g x) (effect : Effect (own i) i (g i) s x y)
    (consistent : Consistent (Function.update g i s) y)
    (memory : y.memory = Function.update x.memory (wallet i) m)
    (claimed : ∀ p, p ∈ m.claimed ↔ p ∈ (x.memory (wallet i)).claimed ∧ p ∉ ys)
    (claims : y.claims = Function.update x.claims i s.claims) (mine : (g i).claims = [ys])
    (nothing : s.claims = []) : Claiming wallet own (Function.update g i s) y := by
  have mine : (g i).claims.flatten = ys := by
    rw [mine]
    exact List.append_nil ys
  refine h.of_known effect consistent claims (fun w p => ?_) ?_ ?_ ?_ <;> rw [nothing]
  · have before := h.known_iff i w p
    rw [mine] at before
    rw [memory, List.flatten_nil]
    refine Iff.trans ?_ (or_iff_right fun impossible => nomatch impossible.2).symm
    by_cases here : w = wallet i
    · subst here
      rw [Function.update_self, claimed, before]
      constructor
      · rintro ⟨⟨-, released⟩ | others, kept⟩
        · exact absurd released kept
        · exact others
      · rintro ⟨j, different, same, there⟩
        refine ⟨.inr ⟨j, different, same, there⟩, fun released => ?_⟩
        exact h.exclusive i j different.symm same.symm (mine ▸ released) there
    · rw [Function.update_of_ne here, before]
      exact or_iff_right fun impossible => here impossible.1.symm
  · exact fun _ _ _ => List.disjoint_nil_left _
  · exact fun _ _ => List.nil_subset _
  · exact fun _ => List.nil_subset _

theorem step {request : Request S} {answer : request.Answer}
    (h : Claiming wallet own g x) (permitted : (g i).Permits (own i) request)
    (met : Meets wallet x i request answer y) :
    Claiming wallet own (Function.update g i ((g i).after request answer)) y := by
  have effect := met.effect permitted
  have consistent := h.toConsistent.effect effect (met.orderly permitted h.orderly)
  cases met with
  | store call =>
    refine h.of_claims effect consistent rfl (fun _ => rfl) ?_
    cases call <;> rfl
  | mint call answer => exact h.of_claims effect consistent rfl (fun _ => rfl) rfl
  | draw secret factor new => exact h.of_claims effect consistent rfl (fun _ => rfl) rfl
  | name name => exact h.of_claims effect consistent rfl (fun _ => rfl) rfl
  | memory call =>
    -- Uses of the memory that change nothing that is claimed.
    have other {m : Memory S} (same : m.claimed = (x.memory (wallet i)).claimed) (w : ω) :
        (Function.update x.memory (wallet i) m w).claimed = (x.memory w).claimed :=
      same_update (f := Memory.claimed) same w
    cases call with
    | current =>
      exact h.of_claims effect consistent (Function.update_eq_self ..) (other rfl) rfl
    | setCurrent id =>
      exact h.of_claims effect consistent (Function.update_eq_self ..) (other rfl) rfl
    | retain last =>
      refine h.of_claims effect consistent (Function.update_eq_self ..) (other ?_) rfl
      show ((x.memory (wallet i)).retain last).claimed = (x.memory (wallet i)).claimed
      unfold Memory.retain
      split <;> rfl
    | claim ys =>
      obtain ⟨idle, -, spends⟩ := permitted
      by_cases pending : ys.any ((x.memory (wallet i)).claimed.contains ·) = true
      · have refused : (MemoryCall.claim ys).perform (x.memory (wallet i)) =
            (false, x.memory (wallet i)) := if_pos pending
        rw [refused] at effect consistent ⊢
        exact h.of_claims effect consistent (Function.update_eq_self ..) (other rfl) rfl
      · have granted : (MemoryCall.claim ys).perform (x.memory (wallet i)) =
            (true, { x.memory (wallet i) with
              operations := (x.memory (wallet i)).operations + 1
              claimed := (x.memory (wallet i)).claimed ++ ys }) := if_neg pending
        rw [granted] at effect consistent ⊢
        refine h.claim effect consistent rfl (fun p mem claimed => pending ?_) rfl ?_ idle ?_ rfl
          spends
        · exact List.any_eq_true.2 ⟨p, mem, List.contains_iff_mem.2 claimed⟩
        · exact congrArg (Function.update x.claims i) (congrArg (ys :: ·) (h.claims i))
        · exact congrArg (ys :: ·) idle
    | release ys =>
      have mine : (g i).claims = [ys] := permitted
      refine h.release effect consistent rfl (fun p => ?_) ?_ mine ?_
      · show p ∈ (x.memory (wallet i)).claimed.filter (!ys.contains ·) ↔ _
        rw [List.mem_filter, Bool.not_eq_true', ← Bool.not_eq_true, List.contains_iff_mem]
      · exact congrArg (Function.update x.claims i) (congrArg (·.erase ys) (h.claims i))
      · show (g i).claims.erase ys = []
        rw [mine]
        exact List.erase_cons_head ..

end

end Claiming

/-! ## What is refused -/

/-- What has been refused is not forgotten. -/
theorem Stage.refused_after {g : Stage S} (refused : g.refused = true) (request : Request S)
    (answer : request.Answer) : (g.after request answer).refused = true := by
  cases request with
  | store call =>
    cases call with
    | reserve ys =>
      rcases answer with (_ | _ | _ | _) | _
      · exact refused
      · exact refused
      · rfl
      · exact refused
      · exact refused
    | _ => exact refused
  | memory call =>
    cases call with
    | claim ys =>
      show (g.refused || !answer) = true
      rw [refused]
      rfl
    | _ => exact refused
  | _ => exact refused

section

variable [DecidableEq ι] [DecidableEq ω] {wallet : ι → ω} {own : ι → Option (List S.Point)}
  {g : ι → Stage S} {x y : Shared S ι ω} {i j : ι} {p : S.Point} {ys : List S.Point}

/-- A claim is refused if another operation of the wallet has claimed one of the proofs. -/
theorem Claiming.refuses_claim (h : Claiming wallet own g x) (same : wallet i = wallet j)
    (claimed : p ∈ (x.claims j).flatten) (mem : p ∈ ys)
    {granted : (MemoryCall.claim ys : MemoryCall S).Result}
    (met : Meets wallet x i (.memory (.claim ys)) granted y) :
    ((g i).after (.memory (.claim ys)) granted).refused = true := by
  rw [h.claims] at claimed
  have known := (h.known (wallet i) p).2 ⟨j, same.symm, claimed⟩
  have pending : ys.any ((x.memory (wallet i)).claimed.contains ·) = true :=
    List.any_eq_true.2 ⟨p, mem, List.contains_iff_mem.2 known⟩
  cases met with
  | memory =>
    have refused : (MemoryCall.claim ys).perform (x.memory (wallet i)) =
        (false, x.memory (wallet i)) := if_pos pending
    rw [refused]
    exact Bool.or_true _

/-- Proofs are not set aside if another send has claimed one of them. -/
theorem Claiming.refuses_reserve (h : Claiming wallet own g x) (sends : own j = none)
    (claimed : p ∈ (x.claims j).flatten) (mem : p ∈ ys)
    {answer : Except (Store.Error S) Unit}
    (met : Meets wallet x i (.store (.reserve ys)) answer y) :
    ((g i).after (.store (.reserve ys)) answer).refused = true := by
  rw [h.claims] at claimed
  have unfree := (h.secured j sends p claimed).1.not_free h.orderly
  have found : (ys.find? (!x.store.isHeldIn .unspent ·)).isSome = true := by
    rw [List.find?_isSome]
    exact ⟨p, mem, by rw [unfree]; rfl⟩
  obtain ⟨q, found⟩ := Option.isSome_iff_exists.1 found
  cases met with
  | store =>
    have refused : (StoreCall.reserve ys).perform x.store = (.error (.notUnspent q), x.store) := by
      rw [StoreCall.perform, Store.reserve, found]
      rfl
    rw [refused]
    rfl

end

/-! ## Operations among others -/

/-- What is known of operations under way: what they have claimed, and how each of them ends. -/
def Underway (wallet : ι → ω) (jobs : ι → Job S) (g : ι → Stage S)
    (x : Interleaved S ι ω fun i => (jobs i).Result) : Prop :=
  Claiming wallet (fun i => (jobs i).own) g x.shared ∧ ∀ i, Obeys (jobs i).own
    (Stage.Ended (fun result g => g.Sent (jobs i).reserves ((jobs i).handed result))
      fun e g => g.refused = true → e = Operation.beingSpent) (x.rest i) (g i)

section

variable {wallet : ι → ω} {settings : ω → Settings} {jobs : ι → Job S} {g : ι → Stage S}
  {x y z : Interleaved S ι ω fun i => (jobs i).Result} {i j : ι}

/-- What a send hands out is not claimed by another operation, if it is set aside and the other one
is a send, or if it is new and the other one was given none of it. -/
theorem Underway.unclaimed (h : Underway wallet jobs g x) (different : i ≠ j)
    {result : (jobs i).Result} (ended : x.EndedWith i (.ok result))
    (apart : (jobs i).reserves = true ∧ (jobs j).own = none ∨ x.shared.HasStored i ∧
      ∃ ys, (jobs j).own = some ys ∧ ys.Disjoint (pointsOf S (x.shared.drawn i)))
    {q : Proof S} (mem : q ∈ (jobs i).handed result) {p : S.Point} (point : q.y = .ok p) :
    p ∉ (x.shared.claims j).flatten := by
  have ends := h.2 i
  rw [ended] at ends
  obtain ⟨-, drawn, aside⟩ := ends
  rw [h.1.claims]
  intro claimed
  obtain ⟨reserves, sends⟩ | ⟨stored, ys, owns, disjoint⟩ := apart
  · obtain ⟨r, there, known⟩ := exists_of_mem_forall₂ (mapM_eq_ok.1 (aside reserves)).flip mem
    obtain rfl := Except.ok.inj (point.symm.trans known)
    exact (h.1.secured j sends p claimed).2 i different there
  · have secret := drawn (h.1.stored i stored) q mem
    rw [← h.1.drawn] at secret
    have found : S.hashToPoint? q.secret.toBytes = some p := elim_eq_ok.1 point
    exact disjoint (h.1.given j ys owns claimed) (List.mem_filterMap.2 ⟨_, secret, found⟩)

variable [DecidableEq ι] [DecidableEq ω]

/-- An operation that is refused something ends with the error that says so. -/
theorem Underway.refused (h : Underway wallet jobs g x) (refused : (g i).refused = true)
    (later : Interleaved.Reaches wallet x z) {outcome : Except (Error S) (jobs i).Result}
    (ended : z.EndedWith i outcome) : outcome = .error Operation.beingSpent := by
  have stays {g : ι → Stage S} {x : Shared S ι ω} {k : ι} {request : Request S}
      {answer : request.Answer} {y : Shared S ι ω} (refused : (g i).refused = true)
      (_ : (g k).Permits (jobs k).own request) (_ : Meets wallet x k request answer y) :
      (Function.update g k ((g k).after request answer) i).refused = true := by
    by_cases here : i = k
    · subst here
      rw [Function.update_self]
      exact Stage.refused_after refused request answer
    · rw [Function.update_of_ne here]
      exact refused
  obtain ⟨g, refused, obeys⟩ := later.keeps (fun i => (jobs i).own)
    (fun g _ => (g i).refused = true) stays ⟨g, refused, h.2⟩
  have ends := obeys i
  rw [ended] at ends
  cases outcome with
  | ok result =>
    have unrefused : (g i).refused = false := ends.refused
    rw [refused] at unrefused
    cases unrefused
  | error e => rw [ends refused]

theorem Underway.of_reaches {store : Store S} (orderly : store.Orderly) {memory : ω → Memory S}
    (idle : ∀ w, (memory w).claimed = [])
    (reached : Interleaved.Reaches wallet (Interleaved.begin store memory fun i =>
      (jobs i).operation (settings (wallet i))) x) : ∃ g, Underway wallet jobs g x :=
  reached.keeps (fun i => (jobs i).own) (Claiming wallet fun i => (jobs i).own) Claiming.step
    ⟨_, .begin wallet _ orderly idle, fun i => (jobs i).ends (settings (wallet i))⟩

/-- An operation that is about to claim what another one of its wallet has claimed fails, and so
does one that is about to set aside what a send has claimed. -/
theorem Underway.refuses (h : Underway wallet jobs g x) {p : S.Point}
    (claimed : p ∈ (x.shared.claims j).flatten) {ys : List S.Point} (mem : p ∈ ys)
    (wants : wallet i = wallet j ∧ x.Asks i (.memory (.claim ys)) ∨
      (jobs j).own = none ∧ x.Asks i (.store (.reserve ys)))
    (step : Interleaved.StepOf wallet i x y) (later : Interleaved.Reaches wallet y z)
    {outcome : Except (Error S) (jobs i).Result} (ended : z.EndedWith i outcome) :
    outcome = .error Operation.beingSpent := by
  obtain ⟨request, next, answer, asks, met, rest⟩ := step
  obtain ⟨permitted, obeys⟩ := Interleaved.obeys_step h.2 asks met.possible rest
  have refused : ((g i).after request answer).refused = true := by
    obtain ⟨same, _, asks'⟩ | ⟨sends, _, asks'⟩ := wants
    · rw [asks'] at asks
      cases asks
      exact h.1.refuses_claim same claimed mem met
    · rw [asks'] at asks
      cases asks
      exact h.1.refuses_reserve sends claimed mem met
  have underway : Underway wallet jobs _ y := ⟨h.1.step permitted met, obeys⟩
  refine underway.refused ?_ later ended
  rw [Function.update_self]
  exact refused

end

/-- Any number of payments, splits and sends of any wallets over one store fall between each other
in any way, and the mint answers anything at all. No two operations of a wallet have claimed the same
proof. An operation that would claim what another one of its wallet has claimed fails, and so does
one that would set aside what a send has claimed. What a send hands out is claimed by no other send,
if it was to be set aside, and by no payment or split, if the send has made an exchange and they were
not given its new proofs: where it has made no exchange it has not claimed what it hands out. -/
theorem claims_exclude [DecidableEq ι] [DecidableEq ω] (wallet : ι → ω) (settings : ω → Settings)
    (jobs : ι → Job S) {store : Store S} (orderly : store.Orderly) {memory : ω → Memory S}
    (idle : ∀ w, (memory w).claimed = []) {x : Interleaved S ι ω fun i => (jobs i).Result}
    (reached : Interleaved.Reaches wallet (Interleaved.begin store memory fun i =>
      (jobs i).operation (settings (wallet i))) x) :
    (∀ i j, i ≠ j → wallet i = wallet j →
      (x.shared.claims i).flatten.Disjoint (x.shared.claims j).flatten) ∧
    (∀ i j, i ≠ j → ∀ p ∈ (x.shared.claims j).flatten, ∀ ys, p ∈ ys →
      wallet i = wallet j ∧ x.Asks i (.memory (.claim ys)) ∨
        (jobs j).own = none ∧ x.Asks i (.store (.reserve ys)) →
      ∀ y z outcome, Interleaved.StepOf wallet i x y → Interleaved.Reaches wallet y z →
        z.EndedWith i outcome → outcome = .error Operation.beingSpent) ∧
    ∀ i j, i ≠ j → ∀ result, x.EndedWith i (.ok result) →
      (jobs i).reserves = true ∧ (jobs j).own = none ∨ x.shared.HasStored i ∧
        (∃ ys, (jobs j).own = some ys ∧ ys.Disjoint (pointsOf S (x.shared.drawn i))) →
      ∀ q ∈ (jobs i).handed result, ∀ p, q.y = .ok p → p ∉ (x.shared.claims j).flatten := by
  obtain ⟨g, underway⟩ := Underway.of_reaches orderly idle reached
  refine ⟨fun i j different same => ?_, ?_, ?_⟩
  · rw [underway.1.claims, underway.1.claims]
    exact underway.1.exclusive i j different same
  · intro i j _ p claimed ys mem wants y z outcome step later ended
    exact underway.refuses claimed mem wants step later ended
  · intro i j different result ended apart q mem p point
    exact underway.unclaimed different ended apart mem point

end Chaumian.Wallet

namespace Chaumian.Sample

open Wallet

/-- The proofs that are to be claimed. -/
def claimed? : Request suite → Option (List suite.Point)
  | .memory (.claim ys) => some ys
  | _ => none

theorem asks_of_claimed? {ι ω : Type} {α : ι → Type} {x : Interleaved suite ι ω α} {i : ι}
    {ys : List suite.Point} (h : (x.asks? i).bind claimed? = some ys) :
    x.Asks i (.memory (.claim ys)) := by
  obtain ⟨request, asks, same⟩ := Option.bind_eq_some_iff.1 h
  have known : request = .memory (.claim ys) := by
    unfold claimed? at same
    split at same
    · cases same
      rfl
    · cases same
  exact Interleaved.asks_iff.2 (known ▸ asks)

/-- The proofs that are to be given for a payment. -/
def melted? : Request suite → Option (List (Proof suite))
  | .mint (.melt request) => some request.proofs
  | _ => none

theorem asks_of_melted? {ι ω : Type} {α : ι → Type} {x : Interleaved suite ι ω α} {i : ι}
    {proofs : List (Proof suite)} (h : (x.asks? i).bind melted? = some proofs) :
    ∃ request, x.Asks i (.mint (.melt request)) ∧ request.proofs = proofs := by
  obtain ⟨request, asks, same⟩ := Option.bind_eq_some_iff.1 h
  unfold melted? at same
  split at same
  · rename_i melt
    exact ⟨melt, Interleaved.asks_iff.2 asks, Option.some.inj same⟩
  · cases same

/-- Over proofs of 4 and 8, a send of 3 out of the latter, a payment with the former and a send of
some amount out of the former. -/
def spenders (amount : Nat) : Fin 3 → Job suite :=
  ![.splitToSend [proof 8 1] (.clamp 3) true, .pay lightning [proof 4 0] "invoice" (.clamp 2),
    .splitToSend [proof 4 0] (.clamp amount) true]

/-- They are operations of one wallet. -/
def owner (_ : Fin 3) : Unit := ()

/-- They are about to begin. -/
def spending (amount : Nat) : Interleaved suite (Fin 3) Unit fun i => (spenders amount i).Result :=
  .begin (wallet [4, 8]).store (fun _ => (wallet []).memory) fun i =>
    (spenders amount i).operation .default

/-- The payment waits for the mint, the first send has ended, and the second one, for which an
exchange is needed, is about to claim what it has set aside. -/
def spendingOn : Interleaved suite (Fin 3) Unit fun i => (spenders 3 i).Result :=
  (spending 3).takeAll owner (turns (.replicate 5 1 ++ .replicate 14 0 ++ [2]))

set_option maxRecDepth 4000

/-- What the first send hands out is not claimed by the payment, and the second send fails. -/
theorem claims_exclude_spending :
    (∃ result, spendingOn.EndedWith 0 (.ok result) ∧
      ((spenders 3 0).handed result).map (·.amount.toNat) = [1, 2] ∧
      ∀ q ∈ (spenders 3 0).handed result, ∀ p, q.y = .ok p →
        p ∉ (spendingOn.shared.claims 1).flatten) ∧
    point 0 ∈ (spendingOn.shared.claims 1).flatten ∧
    ((spendingOn.take owner (turn 2 0)).take owner (turn 2 0)).EndedWith 2
      (.error Operation.beingSpent) := by
  have orderly : (wallet [4, 8]).store.Orderly := ⟨by decide +kernel, by decide +kernel⟩
  obtain ⟨-, refuses, unclaimed⟩ := claims_exclude owner (fun _ => .default) (spenders 3)
    orderly (fun _ => rfl) (Interleaved.reaches_takeAll _ _ (spending 3))
  have claimed : point 0 ∈ (spendingOn.shared.claims 1).flatten := by decide +kernel
  refine ⟨?_, claimed, ?_⟩
  · have made : (((spendingOn.outcome? 0).bind (·.toOption)).map fun result =>
        ((spenders 3 0).handed result).map (·.amount.toNat)) = some [1, 2] := by decide +kernel
    obtain ⟨result, first, amounts⟩ := Option.map_eq_some_iff.1 made
    obtain ⟨_ | _, known, same⟩ := Option.bind_eq_some_iff.1 first
    · cases same
    cases same
    have ended := Interleaved.endedWith_iff.2 known
    have stored : (0 : Fin 3) ∈ spendingOn.shared.exchanged.map (·.1) := by decide +kernel
    have own : (spenders 3 1).own = some [point 0] := by decide +kernel
    have new : point 0 ∉ pointsOf suite (spendingOn.shared.drawn 0) := by decide +kernel
    refine ⟨result, ended, amounts,
      unclaimed 0 1 (by decide) result ended (.inr ⟨stored, _, own, ?_⟩)⟩
    exact List.singleton_disjoint.2 new
  · have wants : spendingOn.Asks 2 (.memory (.claim [point 0])) :=
      asks_of_claimed? (by decide +kernel)
    have moved : ((spendingOn.take owner (turn 2 0)).asks? 2).bind claimed? = none := by
      decide +kernel
    obtain same | step := spendingOn.stepOf_take owner (turn 2 0)
    · rw [same, Interleaved.asks_iff.1 wants] at moved
      cases moved
    have finished : (((spendingOn.take owner (turn 2 0)).take owner
        (turn 2 0)).outcome? 2).isSome = true := by decide +kernel
    obtain ⟨outcome, known⟩ := Option.isSome_iff_exists.1 finished
    have ended := Interleaved.endedWith_iff.2 known
    have failed := refuses 2 1 (by decide) (point 0) claimed [point 0] (List.mem_singleton.2 rfl)
      (.inl ⟨rfl, wants⟩) _ _ outcome step (Interleaved.reaches_take _ _ _) ended
    rw [failed] at ended
    exact ended

/-- When both sends have been served before the payment goes on. The second one takes the proof of 4
as it is. -/
def spendingOver : Interleaved suite (Fin 3) Unit fun i => (spenders 4 i).Result :=
  (spending 4).takeAll owner (turns (.replicate 5 1 ++ .replicate 3 2))

/-- A payment with the proof of 4 has claimed it and waits for the mint, and a send of 4 hands out
this very proof. -/
theorem handed_out_while_spent :
    Interleaved.Reaches owner (spending 4) spendingOver ∧
    (∃ request, spendingOver.Asks 1 (.mint (.melt request)) ∧ request.proofs = [proof 4 0]) ∧
    (proof 4 0).y = .ok (point 0) ∧ point 0 ∈ (spendingOver.shared.claims 1).flatten ∧
    ∃ result, spendingOver.EndedWith 2 (.ok result) ∧
      (spenders 4 2).handed result = [proof 4 0] := by
  have melting : (spendingOver.asks? 1).bind melted? = some [proof 4 0] := by decide +kernel
  have made : (((spendingOver.outcome? 2).bind (·.toOption)).map (spenders 4 2).handed) =
      some [proof 4 0] := by decide +kernel
  obtain ⟨result, first, handed⟩ := Option.map_eq_some_iff.1 made
  obtain ⟨_ | _, known, same⟩ := Option.bind_eq_some_iff.1 first
  · cases same
  cases same
  refine ⟨Interleaved.reaches_takeAll _ _ _, asks_of_melted? melting, by decide +kernel,
    by decide +kernel, result, Interleaved.endedWith_iff.2 known, handed⟩

end Chaumian.Sample
