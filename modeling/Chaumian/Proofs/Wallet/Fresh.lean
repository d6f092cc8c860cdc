import Chaumian.Proofs.Wallet.Registry

/-!
# Secrets that nobody has used

What is drawn anew is taken to be new: the secrets drawn in the course of a run have points of their
own, which are none of the points known before. Rows of proofs with such secrets are always added to
a store behind the others.
-/

namespace Chaumian.Wallet.World

variable {S : Suite} {τ : Type} {world : World S τ}

/-- The secrets from the `n`-th draw on and before the `m`-th have different points, and none of the
known ones. -/
structure Fresh (world : World S τ) (n m : Nat) (known : List S.Point) : Prop where
  new : ∀ i, n ≤ i → i < m → ∀ y, Blind.pointOf S (world.secret i).toBytes = .ok y → y ∉ known
  distinct : ∀ i, n ≤ i → i < m → ∀ j, n ≤ j → j < m → ∀ y,
    Blind.pointOf S (world.secret i).toBytes = .ok y →
    Blind.pointOf S (world.secret j).toBytes = .ok y → i = j

/-- The points of the secrets from the `n`-th draw on and before the `m`-th. -/
def points (world : World S τ) (n m : Nat) : List (Option S.Point) :=
  (List.range' n (m - n)).map fun i => (Blind.pointOf S (world.secret i).toBytes).toOption

theorem Fresh.of_points {n m : Nat} {known : List S.Point} (distinct : (world.points n m).Nodup)
    (new : ∀ y ∈ known, some y ∉ world.points n m) : world.Fresh n m known := by
  have mem (i : Nat) (low : n ≤ i) (high : i < m) : i ∈ List.range' n (m - n) := by
    rw [List.mem_range'_1]
    omega
  refine ⟨fun i low high y point old => ?_, fun i low high j low' high' y point point' => ?_⟩
  · refine new y old (List.mem_map.2 ⟨i, mem i low high, ?_⟩)
    rw [point]
    rfl
  · refine List.inj_on_of_nodup_map distinct (mem i low high) (mem j low' high') ?_
    rw [point, point']

section

variable {n m : Nat} {known : List S.Point} {proofs : List (Proof S)}

/-- What is drawn up to some draw is new if what is drawn up to a later one is. -/
theorem Fresh.of_le {m' : Nat} (fresh : world.Fresh n m known) (le : m' ≤ m) :
    world.Fresh n m' known :=
  ⟨fun i low high => fresh.new i low (Nat.lt_of_lt_of_le high le),
    fun i low high j low' high' => fresh.distinct i low (Nat.lt_of_lt_of_le high le) j low'
      (Nat.lt_of_lt_of_le high' le)⟩

theorem Fresh.mono {known' : List S.Point} (fresh : world.Fresh n m known)
    (fewer : ∀ y ∈ known', y ∈ known) : world.Fresh n m known' :=
  ⟨fun i low high y point old => fresh.new i low high y point (fewer y old), fresh.distinct⟩

/-- What is drawn after some draws is new to these, too. -/
theorem Fresh.after {l : Nat} {known' : List S.Point} (fresh : world.Fresh n m known) (le : n ≤ l)
    (old : ∀ y ∈ known', y ∈ known ∨
      ∃ i, n ≤ i ∧ i < l ∧ Blind.pointOf S (world.secret i).toBytes = .ok y) :
    world.Fresh l m known' := by
  refine ⟨fun i low high y point mem => ?_, fun i low high j low' high' =>
    fresh.distinct i (le.trans low) high j (le.trans low') high'⟩
  rcases old y mem with mem | ⟨j, low', high', point'⟩
  · exact fresh.new i (le.trans low) high y point mem
  · have same := fresh.distinct i (le.trans low) high j low' (by omega) y point point'
    omega

/-- The points under which the proofs of the secrets from the `n`-th draw on are kept. -/
theorem points_of_drawn
    (secrets : proofs.map (·.secret) = (List.range' n proofs.length).map world.secret)
    (ys : List S.Point) (points : Proof.ys proofs = .ok ys) :
    List.Forall₂ (fun i y => Blind.pointOf S (world.secret i).toBytes = .ok y)
      (List.range' n proofs.length) ys := by
  have points := mapM_eq_ok.1 points
  have bySecret : List.Forall₂ (fun secret y => Blind.pointOf S (Secret.toBytes secret) = .ok y)
      (proofs.map (·.secret)) ys := List.forall₂_map_left_iff.2 points
  rw [secrets] at bySecret
  exact List.forall₂_map_left_iff.1 bySecret

theorem Fresh.nodup (fresh : world.Fresh n m known) (within : n + proofs.length ≤ m)
    (secrets : proofs.map (·.secret) = (List.range' n proofs.length).map world.secret)
    {ys : List S.Point} (points : Proof.ys proofs = .ok ys) : ys.Nodup := by
  refine nodup_of_forall₂ (points_of_drawn secrets ys points) List.nodup_range' ?_
  intro i mem j mem' y
  rw [List.mem_range'_1] at mem mem'
  exact fresh.distinct i mem.1 (by omega) j mem'.1 (by omega) y

theorem Fresh.notMem (fresh : world.Fresh n m known) (within : n + proofs.length ≤ m)
    (secrets : proofs.map (·.secret) = (List.range' n proofs.length).map world.secret)
    {ys : List S.Point} (points : Proof.ys proofs = .ok ys) {y : S.Point} (mem : y ∈ ys) :
    y ∉ known := by
  obtain ⟨i, mem, point⟩ := exists_of_mem_forall₂ (points_of_drawn secrets ys points) mem
  rw [List.mem_range'_1] at mem
  exact fresh.new i mem.1 (by omega) y point

end

/-- The points known before an operation on proofs: theirs, and those that the wallet has rows
of. -/
def knownPoints (store : Store S) (ys : List S.Point) : List S.Point :=
  ys ++ store.proofs.map (·.row.y)

theorem knownPoints_of_books {store store' : Store S} (same : store'.books = store.books)
    (ys : List S.Point) : knownPoints store' ys = knownPoints store ys :=
  congrArg (fun b => ys ++ b.1.map (·.row.y)) same

/-- Rows of such proofs are always added behind the others. -/
theorem Fresh.update {n m : Nat} {before store : Store S} {ys : List S.Point}
    (fresh : world.Fresh n m (knownPoints before ys)) {proofs : List (Proof S)}
    (within : n + proofs.length ≤ m)
    (secrets : proofs.map (·.secret) = (List.range' n proofs.length).map world.secret)
    {rows : List (ProofRow S)} (points : Proof.ys proofs = .ok (rows.map (·.y)))
    (books : store.books = before.books) (meltId : Option String) :
    store.update rows ys meltId = .ok (store.exchange rows ys meltId) := by
  have same : store.proofs = before.proofs := congrArg Prod.fst books
  have new (row : ProofRow S) (mem : row ∈ rows) : row.y ∉ knownPoints before ys :=
    fresh.notMem within secrets points (List.mem_map_of_mem mem)
  refine Store.update_of_new meltId (fresh.nodup within secrets points) (fun row mem kept => ?_)
    fun row mem given => new row mem (List.mem_append_left _ given)
  rw [same] at kept
  exact new row mem (List.mem_append_right _ kept)

end Chaumian.Wallet.World
