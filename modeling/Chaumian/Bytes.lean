/-!
Strings of bytes and the numbers they spell, most significant byte first.
-/

namespace Chaumian

/-- A string of bytes. -/
abbrev Bytes := List UInt8

namespace Bytes

/-- The number a string of bytes spells, most significant byte first. -/
def toNat (bytes : Bytes) : Nat :=
  bytes.foldl (fun n byte => n * 256 + byte.toNat) 0

/-- A number at a width of `width` bytes, most significant byte first; what does not fit is cut
off at the top. -/
def ofNat : (width : Nat) → Nat → Bytes
  | 0, _ => []
  | width + 1, n => ofNat width (n / 256) ++ [UInt8.ofNat n]

/-- The bytes that store a text. -/
def ofText (text : String) : Bytes := text.toUTF8.toList

@[simp] theorem length_ofNat (width n : Nat) : (ofNat width n).length = width := by
  induction width generalizing n with
  | zero => rfl
  | succ width ih => simp [ofNat, ih]

end Bytes

end Chaumian
