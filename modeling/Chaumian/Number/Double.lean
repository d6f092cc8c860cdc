import Chaumian.Number.Digits
import Chaumian.Number.Shortest

/-!
Numbers of double precision: finite ones with a sign, the two infinite ones, and the one that is
no number.
-/

namespace Chaumian

/-- A number of double precision. -/
inductive Double where
  | finite (minus : Bool) (magnitude : Binary64)
  | infinite (minus : Bool)
  | nan
  deriving DecidableEq, Repr

namespace Double

/-- The number nearest to what decimal digits spell, times a power of ten. Beyond the powers
looked at here it is infinite or zero whatever the digits are. -/
def ofDecimal (minus : Bool) (digits : List Char) (exponent : Int) : Double :=
  let n := (Digits.toNat? 10 digits).getD 0
  if n = 0 ∨ exponent + digits.length < -400 then .finite minus .zero
  else if exponent > 400 then .infinite minus
  else
    match Binary64.ofDecimal? n exponent with
    | some x => .finite minus x
    | none => .infinite minus

/-- The number a text spells: a name, or digits with a point among, before or behind them, and an
exponent behind. -/
def ofText? (cs : List Char) : Option Double :=
  let (minus, cs) := Digits.splitSign cs
  match String.ofList (cs.map Char.toLower) with
  | "inf" => some (.infinite minus)
  | "infinity" => some (.infinite minus)
  | "nan" => some .nan
  | _ => do
    let whole := cs.takeWhile Char.isDigit
    let (fraction, rest) :=
      match cs.dropWhile Char.isDigit with
      | '.' :: rest => (rest.takeWhile Char.isDigit, rest.dropWhile Char.isDigit)
      | rest => ([], rest)
    if whole ++ fraction = [] then none
    let exponent ←
      match rest with
      | [] => some 0
      | c :: rest => if c.toLower = 'e' then Digits.signed? rest else none
    return ofDecimal minus (whole ++ fraction) (exponent - fraction.length)

/-- Numbers are written without exponents, and whole ones without a point. -/
def layout : Decimal.Layout := ⟨fun _ => true, "", 0⟩

/-- The text of a number. -/
def toText : Double → String
  | .finite minus x => (if minus then "-" else "") ++ layout.render x
  | .infinite minus => if minus then "-inf" else "inf"
  | .nan => "NaN"

/-- Whether a number is zero, of either sign. -/
def isZero : Double → Bool
  | .finite _ x => x.mantissa = 0
  | _ => false

/-- The number below a bound that is nearest to a number, a half going up. What is no number
counts as zero. -/
def nearestBelow (bound : Nat) : Double → Nat
  | .finite false x => min x.nearestNat (bound - 1)
  | .infinite false => bound - 1
  | _ => 0

end Double

end Chaumian
