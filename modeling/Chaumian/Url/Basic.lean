import Chaumian.Url.Domain
import Chaumian.Url.Host

/-!
Which texts are absolute URLs, and what keeps the others from being one.
-/

namespace Chaumian.Url

/-- What keeps a text from being an absolute URL. -/
inductive Error where
  /-- No host where there has to be one. -/
  | emptyHost
  | invalidDomain
  | invalidPort
  | invalidIpv4
  | invalidIpv6
  /-- A character that a host of an unknown scheme may not have. -/
  | invalidHostCharacter
  /-- No scheme at the beginning. -/
  | noScheme
  deriving DecidableEq, Repr

/-- The wording of an error. -/
def Error.message : Error → String
  | .emptyHost => "empty host"
  | .invalidDomain => "invalid international domain name"
  | .invalidPort => "invalid port number"
  | .invalidIpv4 => "invalid IPv4 address"
  | .invalidIpv6 => "invalid IPv6 address"
  | .invalidHostCharacter => "invalid domain character"
  | .noScheme => "relative URL without a base"

/-- How much is known of a scheme. -/
inductive Scheme where
  /-- A scheme with a host that is a domain name or a number. -/
  | web
  | file
  | other
  deriving DecidableEq, Repr

/-- What is known of a scheme of the given name. -/
def Scheme.ofName (name : String) : Scheme :=
  if ["http", "https", "ws", "wss", "ftp"].contains name then .web
  else if name = "file" then .file
  else .other

/-- Whether backslashes stand for slashes. -/
def Scheme.isKnown (s : Scheme) : Bool := s ≠ .other

/-- Whether a character ends the part with the user, host and port. -/
def Scheme.endsAuthority (s : Scheme) (c : Char) : Bool :=
  c = '/' ∨ c = '?' ∨ c = '#' ∨ (s.isKnown ∧ c = '\\')

/-- The scheme at the beginning of a text and what follows its colon. -/
def splitScheme? (cs : List Char) : Option (Scheme × List Char) :=
  let isNamePart (c : Char) : Bool := c.isAlphanum ∨ c = '+' ∨ c = '-' ∨ c = '.'
  let name := cs.takeWhile isNamePart
  match name, cs.drop name.length with
  | c :: _, ':' :: rest =>
    if c.isAlpha then some (.ofName (String.ofList (name.map Char.toLower)), rest) else none
  | _, _ => none

/-- Checks an address between brackets, `cs` being what follows the opening one. -/
def checkBracketed (cs : List Char) : Except Error Unit :=
  if cs.getLast? ≠ some ']' then .error .invalidIpv6
  else if isIpv6 cs.dropLast then .ok ()
  else .error .invalidIpv6

/-- Checks a host of a known scheme. -/
def checkKnownHost : List Char → Except Error Unit
  | '[' :: rest => checkBracketed rest
  | cs =>
    match domainOf? cs with
    | none => .error .invalidDomain
    | some [] => .error .emptyHost
    | some name => if endsInNumber name && !isIpv4 name then .error .invalidIpv4 else .ok ()

/-- Checks a host of an unknown scheme. -/
def checkOtherHost : List Char → Except Error Unit
  | '[' :: rest => checkBracketed rest
  | cs =>
    if cs.any fun c => "\x00\t\n\r #/:<>?@[\\]^|".toList.contains c then
      .error .invalidHostCharacter
    else .ok ()

/-- Splits a host from what follows it: it ends at a colon outside brackets. -/
def splitHost (s : Scheme) : (bracketed : Bool) → List Char → List Char × List Char
  | _, [] => ([], [])
  | bracketed, c :: rest =>
    if s.endsAuthority c ∨ (c = ':' ∧ !bracketed) then ([], c :: rest)
    else
      let bracketed := if c = '[' then true else if c = ']' then false else bracketed
      let (host, rest) := splitHost s bracketed rest
      (c :: host, rest)

/-- Checks a port: digits, perhaps none, that spell a number of 16 bits, up to the path. -/
def checkPort (cs : List Char) : Except Error Unit :=
  let digits := cs.takeWhile Char.isDigit
  let ended : Bool :=
    match cs.drop digits.length with
    | [] => true
    | c :: _ => Scheme.web.endsAuthority c
  if ended ∧ (Digits.toNat? 10 digits).getD 0 < Nat.pow 2 16 then .ok () else .error .invalidPort

/-- Splits a user from what follows it: whether the user has a name or password, and the rest. -/
def splitUser (s : Scheme) (cs : List Char) : Except Error (Bool × List Char) :=
  let authority := cs.takeWhile (!s.endsAuthority ·)
  if authority.contains '@' then
    let hostLength := (authority.reverse.takeWhile (· ≠ '@')).length
    let user := authority.take (authority.length - hostLength - 1)
    let rest := cs.drop (user.length + 1)
    match user, rest with
    | [], c :: _ => if s.endsAuthority c then .error .emptyHost else .ok (false, rest)
    | [], [] => .ok (false, [])
    | _, _ => .ok (user ≠ [':'], rest)
  else .ok (false, cs)

/-- Checks a user, host and port, read from behind the two slashes. -/
def checkAuthority (s : Scheme) (cs : List Char) : Except Error Unit := do
  let (hasUser, cs) ← splitUser s cs
  let (host, rest) := splitHost s false cs
  if s.isKnown then
    if host = [] then throw .emptyHost
    checkKnownHost host
  else
    checkOtherHost host
    if host = [] ∧ (rest.head? = some ':' ∨ hasUser) then throw .emptyHost
  match rest with
  | ':' :: port => checkPort port
  | _ => return ()

/-- Whether a text is a letter and a colon or bar, which is no host. -/
def isDriveLetter : List Char → Bool
  | [a, b] => a.isAlpha && (b = ':' || b = '|')
  | _ => false

/-- Checks what follows a scheme. -/
def checkAfterScheme (s : Scheme) (cs : List Char) : Except Error Unit :=
  match s with
  | .web => checkAuthority s (cs.dropWhile fun c => c = '/' ∨ c = '\\')
  | .other =>
    match cs with
    | '/' :: '/' :: rest => checkAuthority s rest
    | _ => .ok ()
  | .file =>
    match cs with
    | a :: b :: rest =>
      if (a = '/' ∨ a = '\\') ∧ (b = '/' ∨ b = '\\') then
        let host := rest.takeWhile (!s.endsAuthority ·)
        if host = [] ∨ isDriveLetter host then .ok () else checkKnownHost host
      else .ok ()
    | _ => .ok ()

/-- A text without controls and blanks at its ends, and without tabs and line ends. -/
def clean (cs : List Char) : List Char :=
  let fromFirst := cs.dropWhile (· ≤ ' ')
  (fromFirst.reverse.dropWhile (· ≤ ' ')).reverse.filter fun c => c ≠ '\t' ∧ c ≠ '\n' ∧ c ≠ '\r'

/-- Checks that a text is an absolute URL. -/
def check (cs : List Char) : Except Error Unit :=
  match splitScheme? (clean cs) with
  | some (s, rest) => checkAfterScheme s rest
  | none => .error .noScheme

end Chaumian.Url
