/-!
Powers modulo a number.
-/

namespace Chaumian

/-- A power of `a` by squaring, where `one` is the power 0. -/
def power [Mul α] (one a : α) (e : Nat) : α :=
  if e = 0 then one
  else
    let root := power one a (e / 2)
    if e % 2 = 1 then root * root * a else root * root
termination_by e
decreasing_by omega

/-- The inverse modulo a prime `m` of a number that is not zero there: its power `m - 2`. -/
def inverse {m : Nat} (one a : Fin m) : Fin m := power one a (m - 2)

end Chaumian
