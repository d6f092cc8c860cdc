import Chaumian.Number.Digits

/-!
Sets of characters given by ranges.
-/

namespace Chaumian.Text

/-- Ranges of characters by the numbers of their first and last ones. -/
abbrev Ranges := List (Nat × Nat)

/-- The parts of a text between blanks and line ends. -/
def words (text : String) : List (List Char) :=
  (text.toList.splitOnP fun c => c = ' ' ∨ c = '\n').filter (· ≠ [])

/-- The range that a text stands for: one number, or two with a hyphen between them, in
hexadecimal. -/
def rangeOfText (cs : List Char) : Nat × Nat :=
  let number (digits : List Char) : Nat := (Digits.toNat? 16 digits).getD 0
  match cs.dropWhile (· ≠ '-') with
  | '-' :: last => (number (cs.takeWhile (· ≠ '-')), number last)
  | _ => (number cs, number cs)

/-- The ranges that the words of a text stand for. -/
def Ranges.ofText (text : String) : Ranges := (words text).map rangeOfText

/-- Whether a character lies in one of the ranges. -/
def Ranges.contains (ranges : Ranges) (c : Char) : Bool :=
  ranges.any fun (first, last) => first ≤ c.toNat && c.toNat ≤ last

end Chaumian.Text
