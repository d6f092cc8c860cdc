import Chaumian.Proofs.Wallet.Run
import Chaumian.Wallet.Task

/-!
# What the operations at work have claimed

A wallet remembers how many of its operations are at work, and in one set the proofs that they have
claimed. It does not remember which operation has claimed what: an operation that ends or is given up
takes what it has claimed out of the set, whether somebody else has claimed it as well or not.

A `Workload` is a memory together with the claims of the operations at work, each of which ends at
some time in any order. `Workload.Regular` says that no two claims overlap, that the set is their
union and that they are as many as the wallet counts. It is kept by every use of the memory
(`Regular.use`), and `claims_apart` says what follows for a wallet that begins with nothing.
-/

namespace Chaumian.Wallet

variable {S : Suite}

theorem Memory.close_eq_ok {m : Memory S} : m.close = .ok () ↔ m.operations = 0 := by
  unfold Memory.close
  by_cases busy : m.operations > 0
  · rw [if_pos busy]
    exact ⟨fun h => (nomatch h), fun none => absurd none (Nat.ne_of_gt busy)⟩
  · rw [if_neg busy]
    exact ⟨fun _ => Nat.eq_zero_of_not_pos busy, fun _ => rfl⟩

/-- A wallet's memory, and what each of the operations at work has claimed. -/
structure Workload (S : Suite) where
  memory : Memory S
  claims : List (List S.Point)

namespace Workload

/-- A wallet that has done nothing. -/
def idle : Workload S := ⟨.empty, []⟩

/-- Whether the memory can be used in some way: only an operation at work can end. -/
def Allows (x : Workload S) : MemoryCall S → Prop
  | .release ys => ys ∈ x.claims
  | .claim _ | .current | .setCurrent _ | .retain _ => True

instance (x : Workload S) : (call : MemoryCall S) → Decidable (x.Allows call)
  | .release ys => inferInstanceAs (Decidable (ys ∈ x.claims))
  | .claim _ | .current | .setCurrent _ | .retain _ => inferInstanceAs (Decidable True)

/-- The memory is used in some way. An operation that is not refused is at work from then on, and
what it has claimed is released when it ends. -/
def use (x : Workload S) (call : MemoryCall S) : Workload S :=
  if x.Allows call then
    ⟨(call.perform x.memory).2, Task.claimsAfter x.claims (.memory call) (call.perform x.memory).1⟩
  else x

/-- What a wallet that has done nothing comes to. -/
def useAll (calls : List (MemoryCall S)) : Workload S := calls.foldl use idle

/-- No two claims overlap, and the wallet remembers all of them and nothing else. -/
structure Regular (x : Workload S) : Prop where
  apart : x.claims.Pairwise List.Disjoint
  union : ∀ y, y ∈ x.memory.claimed ↔ ∃ claim ∈ x.claims, y ∈ claim
  counted : x.memory.operations = x.claims.length

namespace Regular

variable {x : Workload S} {ys : List S.Point}

theorem idle : (idle : Workload S).Regular :=
  ⟨.nil, fun _ => by simp [Workload.idle, Memory.empty], rfl⟩

/-- An operation that is not refused claims what nobody has claimed. -/
theorem claim (h : x.Regular) (new : ∀ y ∈ ys, y ∉ x.memory.claimed) :
    Regular ⟨{ x.memory with
      operations := x.memory.operations + 1
      claimed := x.memory.claimed ++ ys }, ys :: x.claims⟩ where
  apart := by
    refine List.pairwise_cons.2 ⟨fun claim mem y here there => ?_, h.apart⟩
    exact new y here ((h.union y).2 ⟨claim, mem, there⟩)
  union y := by
    rw [List.mem_append, h.union, List.exists_mem_cons_iff, or_comm]
  counted := congrArg (· + 1) h.counted

/-- What is released at the end of an operation has been claimed by that one alone. -/
theorem release (h : x.Regular) (atWork : ys ∈ x.claims) :
    Regular ⟨x.memory.release ys, x.claims.erase ys⟩ := by
  have both := List.perm_cons_erase atWork
  obtain ⟨others, apart⟩ := List.pairwise_cons.1
    ((both.pairwise_iff fun disjoint => disjoint.symm).1 h.apart)
  refine ⟨apart, fun y => ?_, ?_⟩
  · have kept : y ∈ (x.memory.release ys).claimed ↔ y ∈ x.memory.claimed ∧ y ∉ ys := by
      simp [Memory.release]
    have whole : (∃ claim ∈ x.claims, y ∈ claim) ↔
        y ∈ ys ∨ ∃ claim ∈ x.claims.erase ys, y ∈ claim := by
      simp only [both.mem_iff, List.exists_mem_cons_iff]
    rw [kept, h.union, whole]
    constructor
    · rintro ⟨here | there, notHere⟩
      · exact absurd here notHere
      · exact there
    · rintro ⟨claim, mem, there⟩
      exact ⟨.inr ⟨claim, mem, there⟩, fun here => others claim mem here there⟩
  · show x.memory.operations - 1 = _
    rw [List.length_erase_of_mem atWork, h.counted]

/-- What else is remembered makes no difference. -/
theorem of_memory (h : x.Regular) {m : Memory S} (claimed : m.claimed = x.memory.claimed)
    (operations : m.operations = x.memory.operations) : Regular ⟨m, x.claims⟩ :=
  ⟨h.apart, fun y => claimed ▸ h.union y, operations.trans h.counted⟩

/-- Whichever way the memory is used. -/
theorem use (h : x.Regular) (call : MemoryCall S) : (x.use call).Regular := by
  unfold Workload.use
  by_cases allowed : x.Allows call
  · rw [if_pos allowed]
    cases call with
    | claim ys =>
      dsimp only [MemoryCall.perform]
      obtain ⟨-, refused⟩ | ⟨new, granted⟩ := x.memory.claim_cases ys
      · rw [refused]
        exact h
      · rw [granted]
        exact h.claim new
    | release ys => exact h.release allowed
    | current => exact h
    | setCurrent id => exact h.of_memory rfl rfl
    | retain last =>
      dsimp only [MemoryCall.perform, Memory.retain]
      split
      · exact h
      · exact h.of_memory rfl rfl
  · rw [if_neg allowed]
    exact h

theorem useAll (calls : List (MemoryCall S)) : (useAll calls).Regular := by
  -- Nothing is needed of the beginning but that it is regular.
  suffices general : ∀ x : Workload S, x.Regular → (calls.foldl Workload.use x).Regular
    from general _ .idle
  induction calls with
  | nil => exact fun x regular => regular
  | cons call rest ih => exact fun x regular => ih _ (regular.use call)

/-- An operation is refused exactly if it would claim what another one at work has claimed. -/
theorem claim_cases (h : x.Regular) (ys : List S.Point) :
    (∃ claim ∈ x.claims, ∃ y ∈ ys, y ∈ claim) ∧ x.memory.claim ys = (false, x.memory) ∨
      (¬∃ claim ∈ x.claims, ∃ y ∈ ys, y ∈ claim) ∧ (x.memory.claim ys).1 = true := by
  have overlap : (∃ y ∈ ys, y ∈ x.memory.claimed) ↔ ∃ claim ∈ x.claims, ∃ y ∈ ys, y ∈ claim := by
    simp only [h.union]
    exact ⟨fun ⟨y, mem, claim, work, there⟩ => ⟨claim, work, y, mem, there⟩,
      fun ⟨claim, work, y, mem, there⟩ => ⟨y, mem, claim, work, there⟩⟩
  obtain ⟨taken, refused⟩ | ⟨new, granted⟩ := x.memory.claim_cases ys
  · exact .inl ⟨overlap.1 taken, refused⟩
  · refine .inr ⟨fun taken => ?_, congrArg Prod.fst granted⟩
    obtain ⟨y, mem, claimed⟩ := overlap.2 taken
    exact new y mem claimed

/-- The count is above nothing whenever it is lowered. -/
theorem operations_release (h : x.Regular) (atWork : ys ∈ x.claims) :
    (x.memory.release ys).operations + 1 = x.memory.operations := by
  have some : 0 < x.memory.operations := h.counted ▸ List.length_pos_of_mem atWork
  exact Nat.sub_add_cancel some

theorem close_iff (h : x.Regular) : x.memory.close = .ok () ↔ x.claims = [] := by
  rw [Memory.close_eq_ok, h.counted, List.length_eq_zero_iff]

end Regular

/-- An operation that is refused fails with what the mint, too, says of proofs that are being spent,
and has done nothing. -/
theorem perform_claiming_of_refused {τ α : Type} {world : World S τ} {z : Scene S τ}
    {ys : List S.Point} (refused : z.wallet.memory.claim ys = (false, z.wallet.memory))
    (body : Operation S α) :
    world.perform (Operation.claiming ys body) z = (.error Operation.beingSpent, z) := by
  have asked : world.perform (Operation.askMemory (.claim ys)) z = (.ok false, z) := by
    show (Except.ok (z.wallet.memory.claim ys).1, z.withMemory (z.wallet.memory.claim ys).2) = _
    rw [refused]
    rfl
  unfold Operation.claiming
  rw [World.perform_bind, asked]
  rfl

/-- **Claims never overlap**, in whatever order operations begin and end. The claims of the operations
at work have no proof in common; what the wallet remembers as claimed is what they have claimed, and
they are as many as it counts, so that there is something to take off the count when one of them
ends. An operation is refused exactly if it would claim what one at work has claimed, and then nothing
is changed. The wallet can be closed exactly if no operation is at work. -/
theorem claims_apart (calls : List (MemoryCall S)) :
    (useAll calls).claims.Pairwise List.Disjoint ∧
    (∀ y, y ∈ (useAll calls).memory.claimed ↔ ∃ claim ∈ (useAll calls).claims, y ∈ claim) ∧
    (useAll calls).memory.operations = (useAll calls).claims.length ∧
    (∀ ys ∈ (useAll calls).claims,
      ((useAll calls).memory.release ys).operations + 1 = (useAll calls).memory.operations) ∧
    (∀ ys, (∃ claim ∈ (useAll calls).claims, ∃ y ∈ ys, y ∈ claim) ∧
        (useAll calls).memory.claim ys = (false, (useAll calls).memory) ∨
      (¬∃ claim ∈ (useAll calls).claims, ∃ y ∈ ys, y ∈ claim) ∧
        ((useAll calls).memory.claim ys).1 = true) ∧
    (∀ {τ α : Type} (world : World S τ) (z : Scene S τ) (ys : List S.Point) (body : Operation S α),
      z.wallet.memory = (useAll calls).memory →
        (∃ claim ∈ (useAll calls).claims, ∃ y ∈ ys, y ∈ claim) →
          world.perform (Operation.claiming ys body) z = (.error Operation.beingSpent, z)) ∧
    ((useAll calls).memory.close = .ok () ↔ (useAll calls).claims = []) := by
  have regular := Regular.useAll calls
  refine ⟨regular.apart, regular.union, regular.counted,
    fun ys atWork => regular.operations_release atWork, regular.claim_cases, ?_, regular.close_iff⟩
  intro τ α world z ys body same overlap
  obtain ⟨-, refused⟩ | ⟨free, -⟩ := regular.claim_cases ys
  · exact perform_claiming_of_refused (same ▸ refused) body
  · exact absurd overlap free

end Workload

end Chaumian.Wallet

namespace Chaumian.Sample

open Wallet

/-- Three operations begin, the second of them on no proofs; the first one ends, and one on a proof
of the third is refused. -/
def dealings : List (MemoryCall suite) :=
  [.claim [point 0, point 1], .claim [], .claim [point 2], .release [point 0, point 1],
    .claim [point 3, point 2]]

/-- Two are still at work, so that the wallet cannot be closed. What the first one had claimed is free
again, and what the third one has claimed is not. -/
theorem claims_apart_dealings :
    (Workload.useAll dealings).claims = [[point 2], []] ∧
    (Workload.useAll dealings).memory.operations = 2 ∧
    ((Workload.useAll dealings).memory.release [point 2]).operations + 1 = 2 ∧
    ((Workload.useAll dealings).memory.claim [point 0]).1 = true ∧
    (generous 0).perform (Operation.claiming [point 2] (Operation.lift (.ok ())))
        { scene [] with wallet := { wallet [] with memory := (Workload.useAll dealings).memory } } =
      (.error Operation.beingSpent,
        { scene [] with wallet := { wallet [] with memory := (Workload.useAll dealings).memory } }) ∧
    (Workload.useAll dealings).memory.close ≠ .ok () := by
  have left : (Workload.useAll dealings).claims = [[point 2], []] := by decide +kernel
  obtain ⟨-, -, counted, released, asked, refused, closes⟩ := Workload.claims_apart dealings
  rw [left] at counted closes
  have overlap : ∃ claim ∈ (Workload.useAll dealings).claims, ∃ y ∈ [point 2], y ∈ claim :=
    ⟨[point 2], by rw [left]; decide, point 2, by decide, by decide⟩
  refine ⟨left, counted, ?_, ?_, ?_, fun closed => ?_⟩
  · rw [released [point 2] (by rw [left]; decide), counted]
    rfl
  · obtain ⟨taken, -⟩ | ⟨-, granted⟩ := asked [point 0]
    · rw [left] at taken
      exact absurd taken (by decide)
    · exact granted
  · exact refused (generous 0) _ _ _ rfl overlap
  · cases closes.1 closed

end Chaumian.Sample
