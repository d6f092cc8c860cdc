import Chaumian.Number.Binary64

/-!
The shortest decimal that reads back as a given binary magnitude, and its layout as text.

A decimal reads back as `m * 2 ^ e` when it lies between the midpoints to the neighbouring
magnitudes, the midpoints included when `m` is even. `shortest` takes the fewest digits for which
a decimal lies there, and of two such decimals the nearer one.
-/

namespace Chaumian

/-- A decimal `digits * 10 ^ exponent`. -/
structure Decimal where
  digits : Nat
  exponent : Int
  deriving DecidableEq, Repr

namespace Decimal

/-- The number of decimal digits of a number; none for zero. -/
def digitCount (n : Nat) : Nat := if n = 0 then 0 else (Nat.toDigits 10 n).length

/-- The power of ten of the leading digit of a quotient other than zero. -/
def leadingPower (num den : Nat) : Int :=
  if num ≥ den then Int.ofNat (digitCount (num / den)) - 1
  else -Int.ofNat (digitCount ((den + num - 1) / num - 1))

/-- The decimals that read back as a magnitude, in quarters of its last place: `low`, `mid` and
`high` over a common denominator. -/
structure Interval where
  low : Nat
  mid : Nat
  high : Nat
  den : Nat
  closed : Bool

/-- The interval of a magnitude. Below a power of two the neighbour is half as far. -/
def Interval.of (x : Binary64) : Interval :=
  let lower := if x.mantissa = 1 <<< 52 ∧ x.exponent > Binary64.minExponent then 1 else 2
  let (up, down) :=
    if x.exponent ≥ 0 then (1 <<< x.exponent.toNat, 1) else (1, 1 <<< (-x.exponent).toNat)
  ⟨(4 * x.mantissa - lower) * up, 4 * x.mantissa * up, (4 * x.mantissa + 2) * up, 4 * down,
    x.mantissa % 2 = 0⟩

/-- Whether a decimal lies in an interval. -/
def Interval.contains (i : Interval) (d : Decimal) : Bool :=
  let (n, k) :=
    if d.exponent ≥ 0 then (d.digits * Nat.pow 10 d.exponent.toNat, 1)
    else (d.digits, Nat.pow 10 (-d.exponent).toNat)
  let value := n * i.den
  if i.closed then i.low * k ≤ value ∧ value ≤ i.high * k
  else i.low * k < value ∧ value < i.high * k

/-- The decimal nearest to the middle of an interval among those of a grid `10 ^ exponent` that
lie in it. -/
def Interval.onGrid? (i : Interval) (exponent : Int) : Option Decimal :=
  let (num, den) :=
    if exponent ≥ 0 then (i.mid, i.den * Nat.pow 10 exponent.toNat)
    else (i.mid * Nat.pow 10 (-exponent).toNat, i.den)
  let below : Decimal := ⟨num / den, exponent⟩
  let above : Decimal := ⟨num / den + 1, exponent⟩
  let r := 2 * (num % den)
  let first := if r > den ∨ (r = den ∧ num / den % 2 = 1) then above else below
  let second := if first = above then below else above
  if i.contains first then some first
  else if i.contains second then some second
  else none

/-- A decimal without zeros at its end, of which at most `n` are taken off. -/
def trim : (n : Nat) → Decimal → Decimal
  | 0, d => d
  | n + 1, d =>
    if d.digits ≠ 0 ∧ d.digits % 10 = 0 then trim n ⟨d.digits / 10, d.exponent + 1⟩ else d

/-- The shortest decimal that reads back as a magnitude other than zero. -/
def shortest (x : Binary64) : Decimal :=
  let i := Interval.of x
  let top := leadingPower i.mid i.den
  let onGrids := (List.range 17).findSome? fun n => i.onGrid? (top - Int.ofNat n)
  (onGrids.getD ⟨0, 0⟩).trim 20

/-- How a magnitude is laid out. -/
structure Layout where
  /-- The powers of ten of the leading digit that are written without an exponent. -/
  positional : Int → Bool
  /-- What is written after a whole number. -/
  wholeSuffix : String
  /-- The least number of digits of an exponent. -/
  exponentDigits : Nat

/-- Text filled with zeros on the left. -/
def padLeft (width : Nat) (text : String) : String :=
  String.ofList (List.replicate (width - text.length) '0') ++ text

/-- The text of a magnitude. -/
def Layout.render (layout : Layout) (x : Binary64) : String :=
  if x.mantissa = 0 then "0" ++ layout.wholeSuffix
  else
    let d := shortest x
    let digits := (toString d.digits).toList
    let top := d.exponent + Int.ofNat digits.length - 1
    if layout.positional top then
      if d.exponent ≥ 0 then
        String.ofList (digits ++ List.replicate d.exponent.toNat '0') ++ layout.wholeSuffix
      else if top ≥ 0 then
        String.ofList (digits.take (top.toNat + 1) ++ '.' :: digits.drop (top.toNat + 1))
      else String.ofList ('0' :: '.' :: (List.replicate (-top - 1).toNat '0' ++ digits))
    else
      let mantissa := digits.take 1 ++ (if digits.length > 1 then '.' :: digits.drop 1 else [])
      String.ofList (mantissa ++ ['e', if top < 0 then '-' else '+']) ++
        padLeft layout.exponentDigits (toString top.natAbs)

end Decimal

end Chaumian
