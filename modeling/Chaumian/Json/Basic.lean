import Chaumian.Number.Shortest

/-!
JSON: its values, and the reasons for which a text is refused.
-/

namespace Chaumian.Json

/-- A number as it is kept: whole where 64 bits allow, else the nearest binary magnitude. -/
inductive Number where
  /-- A whole number from 0. -/
  | natural (n : Nat)
  /-- The whole number `-n`. -/
  | negative (n : Nat)
  | binary (minus : Bool) (magnitude : Binary64)
  deriving DecidableEq, Repr

/-- A value. The members of an object are kept in the order of their names, each name once. -/
inductive Value where
  | null
  | bool (b : Bool)
  | number (n : Number)
  | string (s : String)
  | array (items : List Value)
  | object (members : List (String × Value))
  deriving Repr

/-- What was found where something else was expected. -/
inductive Found where
  | null
  | bool (b : Bool)
  | number (n : Number)
  | string (s : String)
  | sequence
  | map
  deriving DecidableEq, Repr

/-- Why a text is refused. -/
inductive Fault where
  /-- The text is not JSON, is nested too deeply or holds a number out of range. -/
  | malformed
  | wrongType (found : Found) (expected : String)
  /-- A number of the right type but out of range. -/
  | outOfRange (number : Number) (expected : String)
  /-- An array with too few items. -/
  | wrongLength (length : Nat) (expected : String)
  | missingField (name : String)
  | duplicateField (name : String)
  | unknownVariant (name : String) (names : List String)
  /-- A text refused by the type it is read as. -/
  | refused (message : String)
  deriving DecidableEq, Repr

/-- Numbers are written without an exponent when their leading digit stands for a power of ten
from `-4` up to `15`; a whole one ends in `.0`, and an exponent has a sign and two digits. -/
def layout : Decimal.Layout where
  positional top := -4 ≤ top ∧ top < 16
  wholeSuffix := ".0"
  exponentDigits := 2

/-- The text of a number. -/
def Number.render : Number → String
  | .natural n => toString n
  | .negative n => "-" ++ toString n
  | .binary minus x => (if minus then "-" else "") ++ layout.render x

end Chaumian.Json
