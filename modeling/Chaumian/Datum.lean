import Chaumian.Number.Double
import Chaumian.Text.LowerCase

/-!
Single values as they are configured: the same setting may be given as a text, a flag or a number.
-/

namespace Chaumian

/-- A single value. -/
inductive Datum where
  | text (s : String)
  | flag (b : Bool)
  | whole (n : Int)
  | double (x : Double)
  deriving DecidableEq, Repr

namespace Datum

/-- The value that a word stands for where nothing says of what kind it is: a flag or a number if
it spells one, whole numbers being of 64 bits, and else itself. -/
def ofWord (word : String) : Datum :=
  let lower := String.ofList (Text.toLower word.toList)
  if lower = "true" then flag true
  else if lower = "false" then flag false
  else
    match (Digits.signed? word.toList).filter fun n => (Int64.ofInt n).toInt = n with
    | some n => whole n
    | none =>
      match Double.ofText? word.toList with
      | some x => double x
      | none => text word

/-- Words for yes and no, in lower case. -/
def answers : List (String × Bool) :=
  [("true", true), ("on", true), ("yes", true), ("false", false), ("off", false), ("no", false)]

/-- The answer that a text gives in either case. -/
def answer? (s : String) : Option Bool := answers.lookup (String.ofList (Text.toLower s.toList))

/-- The number below `2 ^ 64` that a value stands for. Fractions are rounded, a half up, and
doubles that are too small or too large are taken for the least or the greatest such number. -/
def toNat? : Datum → Option Nat
  | text s =>
    match answer? s with
    | some b => some b.toNat
    | none => (Digits.unsigned? s.toList).filter (· < Nat.pow 2 64)
  | flag b => some b.toNat
  | whole n => if 0 ≤ n then some n.toNat else none
  | double x => some (x.nearestBelow (Nat.pow 2 64))

/-- The flag that a value stands for: numbers do unless they are zero, texts if they are words for
yes or no or a single digit for one of them. -/
def toBool? : Datum → Option Bool
  | text s => if s = "1" then some true else if s = "0" then some false else answer? s
  | flag b => some b
  | whole n => some (n != 0)
  | double x => some !x.isZero

/-- The text of a value. -/
def toText : Datum → String
  | text s => s
  | flag b => if b then "true" else "false"
  | whole n => toString n
  | double x => x.toText

end Datum

end Chaumian
