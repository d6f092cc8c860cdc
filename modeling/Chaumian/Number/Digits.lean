/-!
Numbers spelled with digits.
-/

namespace Chaumian.Digits

/-- The value of a digit in a base of at most sixteen. Letters may be of either case. -/
def value? (base : Nat) (c : Char) : Option Nat :=
  let v :=
    if '0' ≤ c ∧ c ≤ '9' then c.toNat - 48
    else if 'a' ≤ c ∧ c ≤ 'f' then c.toNat - 87
    else if 'A' ≤ c ∧ c ≤ 'F' then c.toNat - 55
    else 16
  if v < base then some v else none

/-- The number that digits spell in a base, the first one counting most. No digits spell zero. -/
def toNat? (base : Nat) (cs : List Char) : Option Nat :=
  cs.foldlM (fun n c => (value? base c).map (n * base + ·)) 0

/-- The number that at least one decimal digit spells. -/
def decimal? (cs : List Char) : Option Nat := if cs = [] then none else toNat? 10 cs

/-- The number that decimal digits spell, a plus sign before them being allowed. -/
def unsigned? : List Char → Option Nat
  | '+' :: cs => decimal? cs
  | cs => decimal? cs

/-- Whether a minus sign stands before a text, and the text behind its sign, if it has one. -/
def splitSign : List Char → Bool × List Char
  | '-' :: cs => (true, cs)
  | '+' :: cs => (false, cs)
  | cs => (false, cs)

/-- A magnitude with a sign. -/
def withSign (minus : Bool) (n : Nat) : Int := if minus then -Int.ofNat n else Int.ofNat n

/-- The number that decimal digits spell, a sign before them being allowed. -/
def signed? (cs : List Char) : Option Int :=
  let (minus, digits) := splitSign cs
  (decimal? digits).map (withSign minus)

end Chaumian.Digits
