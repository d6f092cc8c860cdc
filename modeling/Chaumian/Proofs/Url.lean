import Chaumian.Proofs.MintUrl

/-!
# What a URL is made of

Behind `://` stand the user, the host and the rest of a URL: the port, the path, the query and the
fragment. The characters that separate these are the only ones that decide where one part ends, so
the parts stay where they are when other characters are exchanged or left out.

In a URL that is accepted, no letter follows the colon behind the host (`meetsCased_port`).
-/

namespace Chaumian.Url

open MintUrl (differs_of_notMem)
open Text (Edited edited_filter separates meetsCased)

variable {s : Scheme}

/-! ## Where the authority ends -/

theorem separates_of_endsAuthority {c : Char} (h : s.endsAuthority c = true) :
    separates c = true := by
  rcases of_decide_eq_true h with rfl | rfl | rfl | ⟨-, rfl⟩ <;> rfl

theorem endsAuthority_eq_false {c : Char} (plain : separates c = false) :
    s.endsAuthority c = false := by
  rw [Bool.eq_false_iff]
  intro ends
  rw [separates_of_endsAuthority ends] at plain
  cases plain

theorem goesOn_of_plain {cs : List Char} (plain : ∀ c ∈ cs, s.endsAuthority c = false) :
    ∀ c ∈ cs, (!s.endsAuthority c) = true := by
  intro c mem
  rw [plain c mem]
  rfl

/-- What stands before the end of an authority is exchanged without what follows it. -/
theorem edited_takeWhile {cs ds : List Char} (h : Edited cs ds) :
    Edited (cs.takeWhile (!s.endsAuthority ·)) (ds.takeWhile (!s.endsAuthority ·)) := by
  induction h with
  | nil => exact .nil
  | @kept c cs ds others ih =>
    rw [List.takeWhile_cons, List.takeWhile_cons]
    split
    · exact .kept ih
    · exact .nil
  | @replaced c here cs ds plain plainly others ih =>
    have goesOn := goesOn_of_plain (s := s) fun d mem => endsAuthority_eq_false (plainly d mem)
    have first : (!s.endsAuthority c) = true := by
      rw [endsAuthority_eq_false plain]
      rfl
    rw [List.takeWhile_append_of_pos goesOn, List.takeWhile_cons, if_pos first]
    exact .replaced plain plainly ih

/-! ## Where the host ends -/

theorem splitHost_append (s : Scheme) (bracketed : Bool) (cs : List Char) :
    (splitHost s bracketed cs).1 ++ (splitHost s bracketed cs).2 = cs := by
  induction cs generalizing bracketed with
  | nil => rfl
  | cons c cs ih =>
    rw [splitHost]
    split
    · rfl
    · exact congrArg (c :: ·) (ih _)

theorem endsAuthority_of_mem_splitHost {bracketed : Bool} {cs : List Char} :
    ∀ c ∈ (splitHost s bracketed cs).1, s.endsAuthority c = false := by
  induction cs generalizing bracketed with
  | nil => exact nofun
  | cons c cs ih =>
    rw [splitHost]
    split
    · exact nofun
    · rename_i goesOn
      exact List.forall_mem_cons.2
        ⟨Bool.eq_false_iff.2 fun ends => goesOn (.inl ends), ih⟩

theorem head?_splitHost {bracketed : Bool} {cs : List Char} :
    ∀ c ∈ (splitHost s bracketed cs).2.head?, s.endsAuthority c = true ∨ c = ':' := by
  induction cs generalizing bracketed with
  | nil => exact nofun
  | cons c cs ih =>
    rw [splitHost]
    split
    · rename_i stops
      intro d here
      obtain rfl : c = d := by simpa using here
      exact stops.imp_right And.left
    · exact ih

theorem splitHost_cons {bracketed : Bool} {c : Char} {cs : List Char}
    (goesOn : ¬(s.endsAuthority c = true ∨ c = ':' ∧ (!bracketed) = true)) :
    splitHost s bracketed (c :: cs) =
      let after := splitHost s (if c = '[' then true else if c = ']' then false else bracketed) cs
      (c :: after.1, after.2) := by
  rw [splitHost, if_neg goesOn]

/-- Whether brackets are open, and whether the host goes on, is not for other characters to say. -/
theorem splitHost_plain {bracketed : Bool} {here : List Char}
    (plainly : ∀ d ∈ here, separates d = false) (cs : List Char) :
    splitHost s bracketed (here ++ cs) =
      (here ++ (splitHost s bracketed cs).1, (splitHost s bracketed cs).2) := by
  induction here with
  | nil => rfl
  | cons d here ih =>
    have plain := plainly d List.mem_cons_self
    have other {e : Char} (separating : separates e = true) : d ≠ e := by
      rintro rfl
      rw [separating] at plain
      cases plain
    have goesOn : ¬(s.endsAuthority d = true ∨ d = ':' ∧ (!bracketed) = true) := by
      rintro (ends | ⟨colon, -⟩)
      · rw [endsAuthority_eq_false plain] at ends
        cases ends
      · exact other rfl colon
    rw [List.cons_append, splitHost_cons goesOn, if_neg (other rfl), if_neg (other rfl),
      ih fun e mem => plainly e (List.mem_cons_of_mem _ mem)]
    rfl

/-- The end of a host stays the end of what the host has become. What follows matters by its first
character only. -/
theorem splitHost_of_edited {bracketed : Bool} {cs ds rest rest' : List Char} (h : Edited cs ds)
    (same : rest.head? = rest'.head?)
    (split : splitHost s bracketed (cs ++ rest) = (cs, rest)) :
    splitHost s bracketed (ds ++ rest') = (ds, rest') := by
  induction h generalizing bracketed with
  | nil =>
    rw [List.nil_append] at split ⊢
    cases rest with
    | nil =>
      obtain rfl := List.head?_eq_none_iff.1 same.symm
      rfl
    | cons c rest =>
      obtain ⟨rest', rfl⟩ : ∃ others, rest' = c :: others := List.head?_eq_some_iff.1 same.symm
      by_cases stops : s.endsAuthority c = true ∨ c = ':' ∧ (!bracketed) = true
      · rw [Url.splitHost, if_pos stops]
      · rw [splitHost_cons stops] at split
        cases (Prod.mk.inj split).1
  | @kept c cs ds others ih =>
    rw [List.cons_append] at split
    by_cases stops : s.endsAuthority c = true ∨ c = ':' ∧ (!bracketed) = true
    · rw [Url.splitHost, if_pos stops] at split
      cases (Prod.mk.inj split).1
    · rw [splitHost_cons stops] at split
      obtain ⟨first, second⟩ := Prod.mk.inj split
      rw [List.cons_append, splitHost_cons stops,
        ih (Prod.ext (List.cons.inj first).2 second)]
  | @replaced c here cs ds plain plainly others ih =>
    have single : ∀ d ∈ [c], separates d = false := by simpa using plain
    have split : Url.splitHost s bracketed ([c] ++ (cs ++ rest)) = (c :: cs, rest) := split
    rw [splitHost_plain single] at split
    obtain ⟨first, second⟩ := Prod.mk.inj split
    rw [List.append_assoc, splitHost_plain plainly,
      ih (Prod.ext (List.cons.inj first).2 second)]

/-! ## Blanks -/

/-- Whether a character is no tab and no line end. -/
def isKept (c : Char) : Bool := c ≠ '\t' ∧ c ≠ '\n' ∧ c ≠ '\r'

/-- A text without blanks at its end, and without tabs and line ends. -/
def cleanEnd (cs : List Char) : List Char := (cs.rdropWhile (· ≤ ' ')).filter isKept

theorem separates_of_isKept_eq_false {c : Char} (h : isKept c = false) : separates c = false := by
  have gone : c = '\t' ∨ c = '\n' ∨ c = '\r' := by
    by_contra others
    rw [not_or, not_or] at others
    rw [isKept, decide_eq_true others] at h
    cases h
  rcases gone with rfl | rfl | rfl <;> rfl

theorem isKept_of_lt {c : Char} (large : ' ' < c) : isKept c = true := by
  refine decide_eq_true ⟨?_, ?_, ?_⟩
  all_goals
    rintro rfl
    exact absurd large (by decide)

/-- What is dropped from the beginning ends before a character that stays. -/
theorem dropWhile_append_cons {p : Char → Bool} {c : Char} (stays : p c = false)
    (cs rest : List Char) : (cs ++ c :: rest).dropWhile p = cs.dropWhile p ++ c :: rest := by
  rw [List.dropWhile_append]
  split
  · rename_i none
    rw [List.isEmpty_iff.1 none, List.dropWhile_cons_of_neg (Bool.eq_false_iff.1 stays)]
    rfl
  · rfl

theorem rdropWhile_append_cons {p : Char → Bool} {c : Char} (stays : p c = false)
    (cs rest : List Char) : (cs ++ c :: rest).rdropWhile p = cs ++ c :: rest.rdropWhile p := by
  rw [List.rdropWhile, List.reverse_append, List.reverse_cons, List.append_assoc,
    List.singleton_append, dropWhile_append_cons stays, List.rdropWhile, List.reverse_append,
    List.reverse_cons, List.reverse_reverse, List.append_assoc, List.singleton_append]

theorem cleanEnd_append (cs : List Char) {c : Char} (large : ' ' < c) (rest : List Char) :
    cleanEnd (cs ++ c :: rest) = cs.filter isKept ++ c :: cleanEnd rest := by
  rw [cleanEnd, rdropWhile_append_cons (decide_eq_false (not_le.2 large)), List.filter_append,
    List.filter_cons_of_pos (isKept_of_lt large), cleanEnd]

theorem clean_append (cs : List Char) {c : Char} (large : ' ' < c) (rest : List Char) :
    clean (cs ++ c :: rest) = (cs.dropWhile (· ≤ ' ')).filter isKept ++ c :: cleanEnd rest := by
  have cleaned := cleanEnd_append (cs.dropWhile (· ≤ ' ')) large rest
  rw [← dropWhile_append_cons (decide_eq_false (not_le.2 large))] at cleaned
  exact cleaned

/-! ## The scheme -/

theorem takeWhile_append_cons {p : Char → Bool} {c : Char} (stops : p c = false)
    (cs rest : List Char) : (cs ++ c :: rest).takeWhile p = cs.takeWhile p := by
  induction cs with
  | nil => exact List.takeWhile_cons_of_neg (Bool.eq_false_iff.1 stops)
  | cons d cs ih => rw [List.cons_append, List.takeWhile_cons, List.takeWhile_cons, ih]

theorem drop_length_takeWhile (p : Char → Bool) (cs : List Char) :
    cs.drop (cs.takeWhile p).length = cs.dropWhile p := by
  calc cs.drop (cs.takeWhile p).length
      = (cs.takeWhile p ++ cs.dropWhile p).drop (cs.takeWhile p).length := by
        rw [List.takeWhile_append_dropWhile]
    _ = cs.dropWhile p := List.drop_left

/-- Whether a character may be part of the name of a scheme. -/
def isNamePart (c : Char) : Bool := c.isAlphanum ∨ c = '+' ∨ c = '-' ∨ c = '.'

/-- The scheme of a name, where a colon follows it. -/
def named? : List Char → List Char → Option (Scheme × List Char)
  | c :: name, ':' :: rest =>
    if c.isAlpha then some (.ofName (String.ofList ((c :: name).map Char.toLower)), rest) else none
  | _, _ => none

theorem named?_eq_none {name rest : List Char} {c : Char} (other : c ≠ ':') :
    named? name (c :: rest) = none := by
  unfold named?
  split
  · rename_i same
    exact absurd (List.cons.inj same).1 other
  · rfl

theorem splitScheme?_eq (cs : List Char) :
    splitScheme? cs = named? (cs.takeWhile isNamePart) (cs.dropWhile isNamePart) := by
  rw [← drop_length_takeWhile]
  unfold splitScheme? named?
  show (match cs.takeWhile isNamePart, cs.drop (cs.takeWhile isNamePart).length with
    | c :: _, ':' :: rest =>
      if c.isAlpha then
        some (Scheme.ofName (String.ofList ((cs.takeWhile isNamePart).map Char.toLower)), rest)
      else none
    | _, _ => none) = _
  generalize cs.drop (cs.takeWhile isNamePart).length = rest
  rcases cs.takeWhile isNamePart with _ | ⟨c, name⟩
  · rfl
  · split
    · rename_i same
      cases same
      rfl
    · rfl

/-- A scheme is read up to the first colon. -/
theorem splitScheme?_append {scheme : List Char} (named : ':' ∉ scheme) (rest : List Char) :
    splitScheme? (scheme ++ ':' :: rest) =
      (splitScheme? (scheme ++ [':'])).map fun (s, _) => (s, rest) := by
  have colon : isNamePart ':' = false := rfl
  have others : ':' ∉ scheme.dropWhile isNamePart := fun mem =>
    named ((List.dropWhile_suffix _).subset mem)
  rw [splitScheme?_eq, splitScheme?_eq, takeWhile_append_cons colon, takeWhile_append_cons colon,
    dropWhile_append_cons colon, dropWhile_append_cons colon]
  generalize scheme.dropWhile isNamePart = left at others
  rcases left with _ | ⟨d, left⟩
  · rcases scheme.takeWhile isNamePart with _ | ⟨c, name⟩
    · rfl
    · show (if c.isAlpha then _ else none) = Option.map _ (if c.isAlpha then _ else none)
      split <;> rfl
  · have other : d ≠ ':' := by
      rintro rfl
      exact others List.mem_cons_self
    rw [List.cons_append, List.cons_append, named?_eq_none other, named?_eq_none other]
    rfl

/-! ## The authority -/

/-- Whether a character is passed over before the user and host. -/
def Scheme.skips (s : Scheme) (c : Char) : Bool := s = .web ∧ (c = '/' ∨ c = '\\')

theorem endsAuthority_of_skips {c : Char} (h : s.skips c = true) : s.endsAuthority c = true := by
  obtain ⟨rfl, rfl | rfl⟩ := of_decide_eq_true h <;> rfl

theorem skips_eq_false {c : Char} (h : s.endsAuthority c = false) : s.skips c = false := by
  refine Bool.eq_false_iff.2 fun skips => ?_
  rw [endsAuthority_of_skips skips] at h
  cases h

theorem checkAfterScheme_of_skips {slashes authority : List Char} (notFile : s ≠ .file)
    (skipped : ∀ c ∈ slashes, s.skips c = true)
    (first : ∀ c ∈ authority.head?, s.skips c = false) :
    checkAfterScheme s ('/' :: '/' :: (slashes ++ authority)) = checkAuthority s authority := by
  cases s with
  | web =>
    have same : Scheme.web.skips = fun c => decide (c = '/' ∨ c = '\\') := by
      funext c
      simp [Scheme.skips]
    show checkAuthority .web (('/' :: '/' :: (slashes ++ authority)).dropWhile _) = _
    rw [← same, List.dropWhile_cons_of_pos rfl, List.dropWhile_cons_of_pos rfl,
      List.dropWhile_append_of_pos skipped]
    refine congrArg _ (List.dropWhile_eq_self_iff.2 fun some => ?_)
    rw [Bool.not_eq_true]
    exact first _ (by rw [List.head?_eq_getElem?, List.getElem?_eq_getElem some]; rfl)
  | file => exact absurd rfl notFile
  | other =>
    obtain rfl : slashes = [] := List.eq_nil_iff_forall_not_mem.2 fun c mem => by
      have := skipped c mem
      simp [Scheme.skips] at this
    rfl

theorem splitUser_append {user cs : List Char}
    (closed : user = [] ∨ ∃ name, user = name ++ ['@'])
    (plain : ∀ c ∈ user, s.endsAuthority c = false)
    (noUser : '@' ∉ cs.takeWhile (!s.endsAuthority ·))
    (first : ∀ c ∈ cs.head?, s.endsAuthority c = false) :
    ∃ hasUser, splitUser s (user ++ cs) = .ok (hasUser, cs) := by
  rcases closed with rfl | ⟨name, rfl⟩
  · refine ⟨false, ?_⟩
    rw [List.nil_append, splitUser, if_neg (by simpa using noUser)]
  · have inside := goesOn_of_plain plain
    have authority : ((name ++ ['@']) ++ cs).takeWhile (!s.endsAuthority ·) =
        name ++ '@' :: cs.takeWhile (!s.endsAuthority ·) := by
      rw [List.takeWhile_append_of_pos inside, List.append_assoc, List.singleton_append]
    have behind : ((name ++ '@' :: cs.takeWhile (!s.endsAuthority ·)).reverse.takeWhile
        (· ≠ '@')).length = (cs.takeWhile (!s.endsAuthority ·)).length := by
      rw [List.reverse_append, List.reverse_cons, List.append_assoc, List.singleton_append,
        takeWhile_append_cons (by simp), List.takeWhile_eq_self_iff.2, List.length_reverse]
      exact differs_of_notMem fun mem => noUser (List.mem_reverse.1 mem)
    have front : (name ++ '@' :: cs.takeWhile (!s.endsAuthority ·)).take
        ((name ++ '@' :: cs.takeWhile (!s.endsAuthority ·)).length -
          (cs.takeWhile (!s.endsAuthority ·)).length - 1) = name := by
      rw [List.length_append, List.length_cons]
      rw [show name.length + ((cs.takeWhile (!s.endsAuthority ·)).length + 1) -
        (cs.takeWhile (!s.endsAuthority ·)).length - 1 = name.length by omega, List.take_left]
    have left : ((name ++ ['@']) ++ cs).drop (name.length + 1) = cs :=
      List.drop_left' (by simp)
    unfold splitUser
    simp only [authority, behind, front, left]
    rw [if_pos (by simp)]
    cases name with
    | nil =>
      cases cs with
      | nil => exact ⟨_, rfl⟩
      | cons c cs =>
        have goesOn := first c rfl
        exact ⟨false, if_neg (by simp [goesOn])⟩
    | cons c name => exact ⟨_, rfl⟩

theorem checkPort_of_checkAuthority {cs host rest port : List Char} {hasUser : Bool}
    (users : splitUser s cs = .ok (hasUser, rest))
    (hosts : splitHost s false rest = (host, ':' :: port))
    (accepted : checkAuthority s cs = .ok ()) : checkPort port = .ok () := by
  unfold checkAuthority at accepted
  rw [users] at accepted
  simp only [bind, Except.bind, hosts] at accepted
  split at accepted
  · split at accepted
    · cases accepted
    · split at accepted
      · cases accepted
      · exact accepted
  · split at accepted
    · cases accepted
    · split at accepted
      · cases accepted
      · exact accepted

theorem checkPort_cons {c : Char} {cs : List Char} (accepted : checkPort (c :: cs) = .ok ()) :
    c.isDigit = true ∨ Scheme.web.endsAuthority c = true := by
  by_contra others
  rw [not_or, Bool.not_eq_true, Bool.not_eq_true] at others
  have none : (c :: cs).takeWhile Char.isDigit = [] :=
    List.takeWhile_cons_of_neg (Bool.eq_false_iff.1 others.1)
  have refused : checkPort (c :: cs) = .error .invalidPort := by
    unfold checkPort
    rw [none]
    refine if_neg fun ended => ?_
    have ends : Scheme.web.endsAuthority c = true := ended.1
    rw [others.2] at ends
    cases ends
  rw [refused] at accepted
  cases accepted

end Chaumian.Url
