/-!
Blank characters: those with the Unicode property `White_Space`.
-/

namespace Chaumian.Text

/-- Whether a character is blank. -/
def isBlank (c : Char) : Bool :=
  let n := c.toNat
  (9 ≤ n ∧ n ≤ 13) ∨ n = 0x20 ∨ n = 0x85 ∨ n = 0xa0 ∨ n = 0x1680 ∨ (0x2000 ≤ n ∧ n ≤ 0x200a) ∨
    n = 0x2028 ∨ n = 0x2029 ∨ n = 0x202f ∨ n = 0x205f ∨ n = 0x3000

/-- A text without the blanks at its ends. -/
def trim (cs : List Char) : List Char :=
  ((cs.dropWhile isBlank).reverse.dropWhile isBlank).reverse

/-- What follows a given beginning, if the text has it. -/
def after? : (beginning text : List Char) → Option (List Char)
  | [], text => some text
  | _, [] => none
  | b :: beginning, c :: text => if b = c then after? beginning text else none

theorem after?_append (beginning rest : List Char) : after? beginning (beginning ++ rest) = some rest := by
  induction beginning with
  | nil => cases rest <;> rfl
  | cons b beginning ih => simp [after?, ih]

end Chaumian.Text
