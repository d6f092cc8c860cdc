import Chaumian.Bytes

/-!
UTF-8: which strings of bytes store a text, and where the others stop doing so.
-/

namespace Chaumian.Utf8

/-- What keeps a string of bytes from storing a text. -/
inductive Error where
  /-- So many bytes at an index that begin no character. -/
  | invalid (length index : Nat)
  /-- A character, begun at an index, that the end cuts off. -/
  | incomplete (index : Nat)
  deriving DecidableEq, Repr

/-- The wording of an error. -/
def Error.message : Error → String
  | .invalid length index => s!"invalid utf-8 sequence of {length} bytes from index {index}"
  | .incomplete index => s!"incomplete utf-8 byte sequence from index {index}"

/-- Whether a byte may stand anywhere but first or second in a character. -/
def isTail (b : UInt8) : Bool := 0x80 ≤ b ∧ b ≤ 0xbf

/-- Whether a byte may follow the first byte of a character of three bytes. -/
def isSecondOfThree (first b : UInt8) : Bool :=
  if first = 0xe0 then 0xa0 ≤ b ∧ b ≤ 0xbf
  else if first = 0xed then 0x80 ≤ b ∧ b ≤ 0x9f
  else isTail b

/-- Whether a byte may follow the first byte of a character of four bytes. -/
def isSecondOfFour (first b : UInt8) : Bool :=
  if first = 0xf0 then 0x90 ≤ b ∧ b ≤ 0xbf
  else if first = 0xf4 then 0x80 ≤ b ∧ b ≤ 0x8f
  else isTail b

/-- The value of the bits below the tail mark. -/
def tailBits (b : UInt8) : Nat := b.toNat % 64

/-- The characters of a string of bytes that begins at `index` of a longer one. -/
def decodeFrom (index : Nat) : Bytes → Except Error (List Char)
  | [] => .ok []
  | a :: rest =>
    if a < 0x80 then return Char.ofNat a.toNat :: (← decodeFrom (index + 1) rest)
    else if 0xc2 ≤ a ∧ a ≤ 0xdf then
      match rest with
      | [] => .error (.incomplete index)
      | b :: rest =>
        if isTail b then
          return Char.ofNat (a.toNat % 32 * 64 + tailBits b) :: (← decodeFrom (index + 2) rest)
        else .error (.invalid 1 index)
    else if 0xe0 ≤ a ∧ a ≤ 0xef then
      match rest with
      | [] => .error (.incomplete index)
      | b :: rest =>
        if !isSecondOfThree a b then .error (.invalid 1 index)
        else
          match rest with
          | [] => .error (.incomplete index)
          | c :: rest =>
            if isTail c then
              return Char.ofNat (a.toNat % 16 * 4096 + tailBits b * 64 + tailBits c) ::
                (← decodeFrom (index + 3) rest)
            else .error (.invalid 2 index)
    else if 0xf0 ≤ a ∧ a ≤ 0xf4 then
      match rest with
      | [] => .error (.incomplete index)
      | b :: rest =>
        if !isSecondOfFour a b then .error (.invalid 1 index)
        else
          match rest with
          | [] => .error (.incomplete index)
          | c :: rest =>
            if !isTail c then .error (.invalid 2 index)
            else
              match rest with
              | [] => .error (.incomplete index)
              | d :: rest =>
                if isTail d then
                  return Char.ofNat (a.toNat % 8 * 262144 + tailBits b * 4096 + tailBits c * 64 +
                    tailBits d) :: (← decodeFrom (index + 4) rest)
                else .error (.invalid 3 index)
    else .error (.invalid 1 index)

/-- The text that a string of bytes stores. -/
def decode (bytes : Bytes) : Except Error String := do
  return String.ofList (← decodeFrom 0 bytes)

end Chaumian.Utf8
