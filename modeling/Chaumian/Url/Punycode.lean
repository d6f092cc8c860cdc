import Chaumian.Number.Digits

/-!
Punycode: names beyond ASCII written in ASCII. What the name has of ASCII comes first; behind the
last hyphen stand digits that say, in the order of their numbers, where the other characters go.
-/

namespace Chaumian.Url.Punycode

/-- The value of a digit: the letters come before the numerals. -/
def digit? (c : Char) : Option Nat :=
  if 'a' ≤ c ∧ c ≤ 'z' then some (c.toNat - 97)
  else if 'A' ≤ c ∧ c ≤ 'Z' then some (c.toNat - 65)
  else if '0' ≤ c ∧ c ≤ '9' then some (c.toNat - 22)
  else none

/-- The least value with which a digit does not end its number, by the digit's place, counted in
steps of 36, and the bias. -/
def threshold (place bias : Nat) : Nat := max 1 (min 26 (place - bias))

/-- A number, the first digit counting least. -/
def readNumber (bias : Nat) : (place weight sum : Nat) → List Char → Option (Nat × List Char)
  | _, _, _, [] => none
  | place, weight, sum, c :: rest =>
    match digit? c with
    | none => none
    | some d =>
      let t := threshold place bias
      if d < t then some (sum + d * weight, rest)
      else readNumber bias (place + 36) (weight * (36 - t)) (sum + d * weight) rest

theorem length_lt_of_readNumber {bias place weight sum n : Nat} {cs rest : List Char}
    (h : readNumber bias place weight sum cs = some (n, rest)) : rest.length < cs.length := by
  induction cs generalizing place weight sum with
  | nil => simp [readNumber] at h
  | cons c cs ih =>
    simp only [readNumber] at h
    split at h
    · cases h
    · split at h
      · cases h
        simp
      · have := ih h
        simp only [List.length_cons]
        omega

/-- How often a number has to be divided by 35 to be at most 455, and what it becomes. -/
def divideDown (n : Nat) : Nat × Nat :=
  if 455 < n then
    let (times, rest) := divideDown (n / 35)
    (times + 1, rest)
  else (0, n)

/-- The bias after a number, by how many characters the name has now. -/
def nextBias (number length : Nat) (first : Bool) : Nat :=
  let halved := number / (if first then 700 else 2)
  let (times, rest) := divideDown (halved + halved / length)
  36 * times + 36 * rest / (rest + 38)

/-- A name with the characters put in that numbers say. Each number counts the places passed over
since the last character, and each time the name has been gone through, the next character is due. -/
def insertAll (bias char place : Nat) (first : Bool) (name cs : List Char) : Option (List Char) :=
  match cs with
  | [] => some name
  | c :: rest =>
    match _read : readNumber bias 36 1 0 (c :: rest) with
    | none => none
    | some (number, after) =>
      let length := name.length + 1
      let char := char + (place + number) / length
      let place := (place + number) % length
      if char.isValidChar then
        insertAll (nextBias number length first) char (place + 1) false
          (name.take place ++ Char.ofNat char :: name.drop place) after
      else none
termination_by cs.length
decreasing_by exact length_lt_of_readNumber _read

/-- The name that a text stands for. -/
def decode (cs : List Char) : Option (List Char) :=
  let digits := (cs.reverse.takeWhile (· ≠ '-')).reverse
  let ascii := cs.take (cs.length - digits.length - 1)
  if ascii.all (·.toNat < 128) then insertAll 72 128 0 true ascii digits else none

end Chaumian.Url.Punycode
