import Chaumian.Number.Digits

/-!
The hosts of URLs that are numbers: IPv4 addresses, whose parts may be written in three bases and
may be fewer than four, and IPv6 addresses.
-/

namespace Chaumian.Url

/-- The parts of a text between its dots. -/
def splitDots (cs : List Char) : List (List Char) := cs.splitOn '.'

/-- The number that a part of an IPv4 address spells: in hexadecimal behind `0x`, in octal behind
`0`, else in decimal. -/
def ipv4Part? : List Char → Option Nat
  | [] => none
  | '0' :: 'x' :: rest => Digits.toNat? 16 rest
  | '0' :: 'X' :: rest => Digits.toNat? 16 rest
  | '0' :: c :: rest => Digits.toNat? 8 (c :: rest)
  | cs => Digits.toNat? 10 cs

/-- The parts of a host, without an empty last one. -/
def hostParts (cs : List Char) : List (List Char) :=
  let parts := splitDots cs
  if parts.length > 1 ∧ parts.getLast? = some [] then parts.dropLast else parts

/-- Whether a host ends in a number, and so has to be an IPv4 address. -/
def endsInNumber (cs : List Char) : Bool :=
  match (hostParts cs).getLast? with
  | none => false
  | some last => (last ≠ [] ∧ last.all Char.isDigit) || (ipv4Part? last).isSome

/-- Whether a host is an IPv4 address: all but the last part are bytes, and the last one takes up
what is left of 32 bits. -/
def isIpv4 (cs : List Char) : Bool :=
  let parts := hostParts cs
  match parts.mapM ipv4Part? with
  | none => false
  | some numbers =>
    numbers.length ≤ 4 && numbers.dropLast.all (· ≤ 255) &&
      numbers.getLastD 0 < Nat.pow 256 (5 - numbers.length)

/-- Whether a text is a byte in decimal without leading zeros. -/
def isByte (cs : List Char) : Bool :=
  cs ≠ [] && cs.all Char.isDigit && (cs.length = 1 || cs.head? ≠ some '0') &&
    cs.length ≤ 3 && (Digits.toNat? 10 cs).getD 256 ≤ 255

/-- Whether a text is four bytes with dots between them. -/
def isByteQuad (cs : List Char) : Bool :=
  let parts := splitDots cs
  parts.length = 4 && parts.all isByte

/-- Whether an IPv6 address may go on with a text after so many of its eight pieces. A run of
pieces may be left out once, between two colons, where it counts as one piece. -/
def isIpv6From : (steps pieces : Nat) → (shortened : Bool) → List Char → Bool
  | 0, _, _, _ => false
  | _, pieces, shortened, [] => shortened || pieces = 8
  | steps + 1, pieces, shortened, ':' :: rest =>
    pieces < 8 && !shortened && isIpv6From steps (pieces + 1) true rest
  | steps + 1, pieces, shortened, cs =>
    let digits := (cs.take 4).takeWhile fun c => (Digits.value? 16 c).isSome
    pieces < 8 &&
      match cs.drop digits.length with
      | [] => isIpv6From steps (pieces + 1) shortened []
      | '.' :: _ =>
        digits ≠ [] && pieces ≤ 6 && isByteQuad cs && (shortened || pieces = 6)
      | ':' :: rest => rest ≠ [] && isIpv6From steps (pieces + 1) shortened rest
      | _ => false

/-- Whether a text is an IPv6 address. -/
def isIpv6 : List Char → Bool
  | ':' :: ':' :: rest => isIpv6From (rest.length + 1) 1 true rest
  | ':' :: _ => false
  | cs => cs.length ≥ 2 && isIpv6From (cs.length + 1) 0 false cs

end Chaumian.Url
