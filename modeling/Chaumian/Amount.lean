import Chaumian.Json.Codec
import Chaumian.Number.Digits

/-!
Amounts: numbers of 64 bits, counted in some unit.

Sums are exact or refused. The forms that never refuse stop at the bounds instead of wrapping
around them.
-/

namespace Chaumian

/-- An amount. -/
structure Amount where
  /-- The amount as a number. -/
  toNat : Nat
  lt : toNat < Nat.pow 2 64
  deriving DecidableEq

namespace Amount

/-- What can be wrong with an amount or with its parts. -/
inductive Error where
  /-- A sum is beyond 64 bits. -/
  | overflow
  /-- An amount is beyond what the denominations can make up. -/
  | tooLarge
  /-- Parts do not add up to the amount they should. -/
  | wrongSplit
  /-- A part is no denomination below the bound. -/
  | unsupported (bound : Nat)
  /-- A text is no amount. -/
  | invalid (text : String)
  deriving DecidableEq, Repr

/-- The wording of an error. -/
def Error.message : Error → String
  | .overflow => "Amount Overflow"
  | .tooLarge => "amount too large."
  | .wrongSplit => "split must sum to amount"
  | .unsupported bound => s!"Can only mint amounts with 2^n up to {bound}."
  | .invalid text => s!"Invalid Amount: {text}"

theorem ext {a b : Amount} (h : a.toNat = b.toNat) : a = b := by
  cases a; cases b; cases h; rfl

instance : LT Amount := ⟨fun a b => a.toNat < b.toNat⟩

instance : LE Amount := ⟨fun a b => a.toNat ≤ b.toNat⟩

instance (a b : Amount) : Decidable (a < b) := inferInstanceAs (Decidable (a.toNat < b.toNat))

instance (a b : Amount) : Decidable (a ≤ b) := inferInstanceAs (Decidable (a.toNat ≤ b.toNat))

/-- The amount of a number, if it fits. -/
def ofNat? (n : Nat) : Option Amount := if h : n < Nat.pow 2 64 then some ⟨n, h⟩ else none

/-- The amount of a number, or the largest one. -/
def clamp (n : Nat) : Amount :=
  ⟨min n (Nat.pow 2 64 - 1), Nat.lt_of_le_of_lt (Nat.min_le_right _ _) (by decide)⟩

/-- No amount at all. -/
def zero : Amount := ⟨0, by decide⟩

instance : Inhabited Amount := ⟨zero⟩

/-- The sum of two amounts, if it fits. -/
def add? (a b : Amount) : Option Amount := ofNat? (a.toNat + b.toNat)

/-- What is left of an amount after another one, if that is no larger. -/
def sub? (a b : Amount) : Option Amount :=
  if b.toNat ≤ a.toNat then some ⟨a.toNat - b.toNat, Nat.lt_of_le_of_lt (Nat.sub_le ..) a.lt⟩
  else none

/-- The sum of two amounts, or the largest amount. -/
def saturatingAdd (a b : Amount) : Amount := clamp (a.toNat + b.toNat)

/-- What is left of an amount after another one, or nothing. -/
def saturatingSub (a b : Amount) : Amount := clamp (a.toNat - b.toNat)

/-- The sum of amounts; it may not pass the bound on the way either. -/
def sum (amounts : List Amount) : Except Error Amount :=
  amounts.foldlM (fun total a => (total.add? a).elim (.error .overflow) .ok) zero

/-- Whether an amount is a power of two. -/
def isPowerOfTwo (a : Amount) : Bool := a.toNat ≠ 0 ∧ Nat.pow 2 a.toNat.log2 = a.toNat

/-- The text of an amount. -/
def toText (a : Amount) : String := toString a.toNat

/-- The text of an amount, filled with blanks on the left up to a width. -/
def toTextAt (width : Nat) (a : Amount) : String :=
  String.ofList (List.replicate (width - a.toText.length) ' ') ++ a.toText

/-- The amount a text spells. -/
def ofText (text : String) : Except Error Amount :=
  match (Digits.unsigned? text.toList).bind ofNat? with
  | some a => .ok a
  | none => .error (.invalid text)

/-- The amount of a number of 64 bits. -/
def ofFin (n : Fin (Nat.pow 2 64)) : Amount := ⟨n.val, n.isLt⟩

/-- The number of an amount. -/
def toFin (a : Amount) : Fin (Nat.pow 2 64) := ⟨a.toNat, a.lt⟩

/-- Amounts in JSON are numbers. -/
def codec : Json.Codec Amount := (Json.Codec.unsigned 64).map ofFin toFin

theorem ofNat?_toNat (a : Amount) : ofNat? a.toNat = some a := by
  exact dif_pos a.lt

theorem toNat_of_add? {a b c : Amount} (h : a.add? b = some c) : c.toNat = a.toNat + b.toNat := by
  simp only [add?, ofNat?] at h
  split at h
  · cases h; rfl
  · cases h

theorem toNat_of_sub? {a b c : Amount} (h : a.sub? b = some c) :
    b.toNat ≤ a.toNat ∧ c.toNat = a.toNat - b.toNat := by
  simp only [sub?] at h
  split at h
  · cases h; exact ⟨by assumption, rfl⟩
  · cases h

end Amount

end Chaumian
