/-!
Binary floating point at 64 bits: the finite magnitudes, and rounding to the nearest of them.
-/

namespace Chaumian

/-- A finite magnitude `mantissa * 2 ^ exponent`. The mantissa has at most 53 bits and the
exponent is at least `-1074`; `round?` makes only magnitudes that have exactly 53 bits or that
exponent. -/
structure Binary64 where
  mantissa : Nat
  exponent : Int
  deriving DecidableEq, Repr

namespace Binary64

/-- Zero. -/
def zero : Binary64 := ⟨0, -1074⟩

/-- The least exponent. -/
def minExponent : Int := -1074

/-- The exponent of the largest magnitudes. -/
def maxExponent : Int := 971

/-- A quotient rounded to the nearest whole number, a half to the even one. -/
def roundDiv (num den : Nat) : Nat :=
  let q := num / den
  let r := 2 * (num % den)
  if r > den ∨ (r = den ∧ q % 2 = 1) then q + 1 else q

/-- The numerator and denominator of `num / den` counted in units of `2 ^ exponent`. -/
def scale (num den : Nat) (exponent : Int) : Nat × Nat :=
  if exponent ≥ 0 then (num, den <<< exponent.toNat) else (num <<< (-exponent).toNat, den)

/-- The magnitude nearest to a quotient, a half going to the even mantissa, unless that is
beyond the largest one. -/
def round? (num den : Nat) : Option Binary64 :=
  if num = 0 then some zero
  else
    let guess := max (Int.ofNat num.log2 - Int.ofNat den.log2 - 53) minExponent
    let (n, d) := scale num den guess
    let exponent := if n / d ≥ 1 <<< 53 then guess + 1 else guess
    let (n, d) := scale num den exponent
    let m := roundDiv n d
    let (m, exponent) := if m = 1 <<< 53 then (1 <<< 52, exponent + 1) else (m, exponent)
    if exponent > maxExponent then none else some ⟨m, exponent⟩

/-- The numerator and denominator of a magnitude. -/
def ratio (x : Binary64) : Nat × Nat :=
  if x.exponent ≥ 0 then (x.mantissa <<< x.exponent.toNat, 1)
  else (x.mantissa, 1 <<< (-x.exponent).toNat)

/-- The product of two magnitudes, unless it is too large. -/
def mul? (x y : Binary64) : Option Binary64 :=
  let (a, b) := x.ratio
  let (c, d) := y.ratio
  round? (a * c) (b * d)

/-- The quotient of two magnitudes. Dividing by at least one, as is done here, never makes it
too large. -/
def div (x y : Binary64) : Binary64 :=
  let (a, b) := x.ratio
  let (c, d) := y.ratio
  (round? (a * d) (b * c)).getD zero

/-- The magnitude nearest to a power of ten, for exponents up to 308. -/
def tenPower (n : Nat) : Binary64 := (round? (Nat.pow 10 n) 1).getD zero

/-- The magnitude nearest to `digits * 10 ^ exponent`, unless it is too large. -/
def ofDecimal? (digits : Nat) (exponent : Int) : Option Binary64 :=
  if exponent ≥ 0 then round? (digits * Nat.pow 10 exponent.toNat) 1
  else round? digits (Nat.pow 10 (-exponent).toNat)

/-- The whole number nearest to a magnitude, a half going up. -/
def nearestNat (x : Binary64) : Nat :=
  let (n, d) := x.ratio
  (2 * n + d) / (2 * d)

end Binary64

end Chaumian
