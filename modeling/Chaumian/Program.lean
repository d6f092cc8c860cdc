/-!
Programs that ask for what they do not have: each question waits for its answer, and what comes
next depends on it. Whoever runs a program gives the answers, and may let it wait at any question.
-/

namespace Chaumian

/-- A program that asks questions `q : Q`, each answered by an `A q`, and ends with an `α`. -/
inductive Program (Q : Type) (A : Q → Type) (α : Type) : Type where
  | done (x : α)
  | ask (q : Q) (next : A q → Program Q A α)

namespace Program

variable {Q : Type} {A : Q → Type} {α β γ σ : Type}

/-- A program followed by another one that depends on its end. -/
def bind : Program Q A α → (α → Program Q A β) → Program Q A β
  | done x, f => f x
  | ask q next, f => ask q fun a => (next a).bind f

instance : Monad (Program Q A) where
  pure := done
  bind := bind

theorem bind_done (p : Program Q A α) : p.bind done = p := by
  induction p with
  | done x => rfl
  | ask q next ih => simp only [bind, ih]

theorem bind_assoc (p : Program Q A α) (f : α → Program Q A β) (g : β → Program Q A γ) :
    (p.bind f).bind g = p.bind fun x => (f x).bind g := by
  induction p with
  | done x => rfl
  | ask q next ih => simp only [bind, ih]

instance : LawfulMonad (Program Q A) :=
  LawfulMonad.mk' _ bind_done (fun _ _ => rfl) bind_assoc

/-- The program of a single question. -/
def question (q : Q) : Program Q A (A q) := ask q done

/-- The end of a program whose questions are answered from a state. -/
def run (answer : (q : Q) → σ → A q × σ) : Program Q A α → σ → α × σ
  | done x, s => (x, s)
  | ask q next, s =>
    let (a, s) := answer q s
    (next a).run answer s

theorem run_bind (answer : (q : Q) → σ → A q × σ) (p : Program Q A α) (f : α → Program Q A β)
    (s : σ) :
    (p.bind f).run answer s = (f (p.run answer s).1).run answer (p.run answer s).2 := by
  induction p generalizing s with
  | done x => rfl
  | ask q next ih => simp only [bind, run, ih]

end Program

end Chaumian
