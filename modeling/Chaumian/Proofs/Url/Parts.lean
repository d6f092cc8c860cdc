import Chaumian.Proofs.Url

/-!
# The parts of a URL

A text with `://` behind its scheme is taken apart: a scheme, slashes that are passed over, a user,
a host and the rest. The parts make up the text again (`toChars_partsOf`), and parts that stand as
they should are found again in it (`partsOf_toChars`), also when the letter case of the scheme and
the host has changed (`Parts.Sound.lower`).

In a URL that is accepted, no letter of a word follows the host (`meetsCased_rest`): behind a colon
stands a port.
-/

namespace Chaumian.Url

open MintUrl (differs_of_notMem mark)
open Text (Edited edited_filter edited_toLower endsWord endsWord_of_isDigit endsWord_of_le
  meetsCased meetsCased_cons meetsCased_of_endsWord toLower toLower_ne_nil toLower_toLower)

variable {s : Scheme} {slashes user host rest : List Char}

/-! ## The host -/

/-- What is known of a scheme with a given text. -/
def kindOf (scheme : List Char) : Scheme :=
  ((splitScheme? (clean (scheme ++ [':']))).map Prod.fst).getD .other

/-- The user at the beginning of a text, with the `@` behind. -/
def userOf (s : Scheme) (cs : List Char) : List Char :=
  (cs.takeWhile (!s.endsAuthority ·)).rdropWhile (· ≠ '@')

/-- The host at the beginning of a text and what follows it. A file has no port, and the letter of a
drive is no host. -/
def hostOf (s : Scheme) (cs : List Char) : List Char × List Char :=
  if s = .file then
    if isDriveLetter (clean (toLower (cs.takeWhile (!s.endsAuthority ·)))) then ([], cs)
    else (cs.takeWhile (!s.endsAuthority ·), cs.dropWhile (!s.endsAuthority ·))
  else splitHost s false cs

theorem hostOf_append (s : Scheme) (cs : List Char) : (hostOf s cs).1 ++ (hostOf s cs).2 = cs := by
  unfold hostOf
  split
  · split
    · rfl
    · exact List.takeWhile_append_dropWhile
  · exact splitHost_append s false cs

theorem endsAuthority_of_mem_hostOf (s : Scheme) (cs : List Char) :
    ∀ c ∈ (hostOf s cs).1, s.endsAuthority c = false := by
  unfold hostOf
  split
  · split
    · exact nofun
    · intro c mem
      simpa using List.mem_takeWhile_imp mem
  · exact endsAuthority_of_mem_splitHost

/-- What ends a host. -/
theorem head?_hostOf (s : Scheme) {cs : List Char} (some : (hostOf s cs).1 ≠ []) :
    ∀ c ∈ (hostOf s cs).2.head?, s.endsAuthority c = true ∨ s ≠ .file ∧ c = ':' := by
  unfold hostOf at some ⊢
  split
  · rename_i file
    rw [if_pos file] at some
    split
    · rename_i drive
      rw [if_pos drive] at some
      exact absurd rfl some
    · intro c here
      have stops := List.head?_dropWhile_not (!s.endsAuthority ·) cs
      rw [here] at stops
      exact .inl (by simpa using stops)
  · rename_i notFile
    intro c here
    exact (head?_splitHost c here).imp_right fun colon => ⟨notFile, colon⟩

theorem plain_of_hostOf (split : hostOf s (host ++ rest) = (host, rest)) :
    ∀ c ∈ host, s.endsAuthority c = false := by
  have plain := endsAuthority_of_mem_hostOf s (host ++ rest)
  rw [split] at plain
  exact plain

theorem plain_of_edited {cs ds : List Char} (edited : Edited cs ds)
    (plain : ∀ c ∈ cs, s.endsAuthority c = false) : ∀ d ∈ ds, s.endsAuthority d = false := by
  intro d mem
  refine Bool.eq_false_iff.2 fun ends => ?_
  have before := plain d (edited.mem (separates_of_endsAuthority ends) mem)
  rw [ends] at before
  cases before

/-- The end of a host stays the end of the same host in other letters. -/
theorem hostOf_of_edited {host' : List Char} (edited : Edited host host')
    (same : toLower host' = toLower host) (split : hostOf s (host ++ rest) = (host, rest)) :
    hostOf s (host' ++ rest) = (host', rest) := by
  by_cases file : s = .file
  · have here := goesOn_of_plain (plain_of_hostOf split)
    have here' := goesOn_of_plain (plain_of_edited edited (plain_of_hostOf split))
    rw [hostOf, if_pos file] at split ⊢
    by_cases drive : isDriveLetter (clean (toLower ((host ++ rest).takeWhile
        (!s.endsAuthority ·)))) = true
    · rw [if_pos drive] at split
      obtain rfl : [] = host := (Prod.mk.inj split).1
      cases edited
      rw [if_pos drive]
      rfl
    · rw [if_neg drive] at split
      rw [List.takeWhile_append_of_pos here] at drive split
      rw [List.dropWhile_append_of_pos here] at split
      obtain ⟨whole, left⟩ := Prod.mk.inj split
      have none : rest.takeWhile (!s.endsAuthority ·) = [] := by simpa using whole
      rw [none, List.append_nil, ← same] at drive
      rw [List.takeWhile_append_of_pos here', List.dropWhile_append_of_pos here', none,
        List.append_nil, if_neg drive, left]
  · rw [hostOf, if_neg file] at split ⊢
    exact splitHost_of_edited edited rfl split

/-! ## What stands behind `://` -/

/-- Slashes that are passed over, a user, a host and the rest, each where it is looked for. -/
structure Parted (s : Scheme) (slashes user host rest : List Char) : Prop where
  skipped : ∀ c ∈ slashes, s.skips c = true
  first : user = [] → host = [] → ∀ c ∈ rest.head?, s.skips c = false
  closed : user = [] ∨ ∃ name, user = name ++ ['@']
  plain : ∀ c ∈ user, s.endsAuthority c = false
  noUser : '@' ∉ (host ++ rest).takeWhile (!s.endsAuthority ·)
  split : hostOf s (host ++ rest) = (host, rest)

theorem userOf_append (closed : user = [] ∨ ∃ name, user = name ++ ['@'])
    (plain : ∀ c ∈ user, s.endsAuthority c = false) {cs : List Char}
    (noUser : '@' ∉ cs.takeWhile (!s.endsAuthority ·)) : userOf s (user ++ cs) = user := by
  have others := differs_of_notMem noUser
  rw [userOf, List.takeWhile_append_of_pos (goesOn_of_plain plain)]
  rcases closed with rfl | ⟨name, rfl⟩
  · exact List.rdropWhile_eq_nil_iff.2 others
  · rw [List.append_assoc, List.singleton_append, rdropWhile_append_cons (by simp),
      List.rdropWhile_eq_nil_iff.2 others]

namespace Parted

variable (h : Parted s slashes user host rest)

include h

theorem head? : ∀ c ∈ (user ++ (host ++ rest)).head?, s.skips c = false := by
  intro c here
  rcases user with _ | ⟨d, user⟩
  · rcases host with _ | ⟨d, host⟩
    · exact h.first rfl rfl c here
    · obtain rfl : d = c := by simpa using here
      exact skips_eq_false (plain_of_hostOf h.split d List.mem_cons_self)
  · obtain rfl : d = c := by simpa using here
    exact skips_eq_false (h.plain d List.mem_cons_self)

theorem takeWhile_skips : (slashes ++ (user ++ (host ++ rest))).takeWhile s.skips = slashes := by
  rw [List.takeWhile_append_of_pos h.skipped]
  have none : (user ++ (host ++ rest)).takeWhile s.skips = [] := by
    have first := h.head?
    generalize user ++ (host ++ rest) = cs at first
    rcases cs with _ | ⟨c, cs⟩
    · rfl
    · exact List.takeWhile_cons_of_neg (Bool.eq_false_iff.1 (first c rfl))
  rw [none, List.append_nil]

theorem dropWhile_skips : (slashes ++ (user ++ (host ++ rest))).dropWhile s.skips =
    user ++ (host ++ rest) := by
  have whole := List.takeWhile_append_dropWhile (p := s.skips)
    (l := slashes ++ (user ++ (host ++ rest)))
  rw [h.takeWhile_skips] at whole
  exact List.append_cancel_left whole

theorem edited {host' : List Char} (edited : Edited host host') (remains : host' = [] → host = [])
    (split : hostOf s (host' ++ rest) = (host', rest)) : Parted s slashes user host' rest where
  skipped := h.skipped
  first none none' := h.first none (remains none')
  closed := h.closed
  plain := h.plain
  noUser mem := h.noUser ((edited_takeWhile (edited.append (.refl rest))).mem rfl mem)
  split := split

end Parted

/-! ## The port of a URL that is accepted -/

theorem mem_takeWhile_append {p : Char → Bool} {cs : List Char} {c : Char} (rest : List Char)
    (here : c ∈ cs.takeWhile p) : c ∈ (cs ++ rest).takeWhile p := by
  rw [List.takeWhile_append]
  split
  · exact List.mem_append_left _ ((List.takeWhile_prefix p).subset here)
  · exact here

variable {port : List Char}

/-- Blanks that are left out do not move the parts. -/
theorem Parted.cleaned (h : Parted s slashes user host (':' :: port)) (notFile : s ≠ .file) :
    Parted s (slashes.filter isKept) (user.filter isKept) (host.filter isKept)
      (':' :: cleanEnd port) where
  skipped c mem := h.skipped c (List.mem_filter.1 mem).1
  first _ _ c here := by
    obtain rfl : ':' = c := by simpa using here
    simp [Scheme.skips]
  closed := by
    rcases h.closed with rfl | ⟨name, rfl⟩
    · exact .inl rfl
    · exact .inr ⟨name.filter isKept, List.filter_append _ _⟩
  plain c mem := h.plain c (List.mem_filter.1 mem).1
  noUser mem := by
    have filtered : host.filter isKept ++ ':' :: cleanEnd port =
        (host ++ ':' :: port.rdropWhile (· ≤ ' ')).filter isKept := by
      rw [List.filter_append, List.filter_cons_of_pos rfl]
      rfl
    rw [filtered] at mem
    obtain ⟨blanks, trimmed⟩ := List.rdropWhile_prefix (· ≤ ' ') (l := port)
    have before := (edited_takeWhile
      (edited_filter (fun _ => separates_of_isKept_eq_false) _)).mem rfl mem
    have among := mem_takeWhile_append blanks before
    rw [List.append_assoc, List.cons_append, trimmed] at among
    exact h.noUser among
  split := by
    have split := h.split
    rw [hostOf, if_neg notFile] at split ⊢
    have edited := edited_filter (fun _ => separates_of_isKept_eq_false) host
    have same : (':' :: port).head? = (':' :: cleanEnd port).head? := rfl
    exact splitHost_of_edited edited same split

theorem Parted.checkPort_eq_ok (h : Parted s slashes user host (':' :: port)) (notFile : s ≠ .file)
    (accepted : checkAfterScheme s ('/' :: '/' :: (slashes ++ (user ++ (host ++ ':' :: port)))) =
      .ok ()) : checkPort port = .ok () := by
  have first : ∀ c ∈ (host ++ ':' :: port).head?, s.endsAuthority c = false := by
    intro c here
    rcases host with _ | ⟨d, host⟩
    · obtain rfl : ':' = c := by simpa using here
      cases s <;> rfl
    · obtain rfl : d = c := by simpa using here
      exact plain_of_hostOf h.split d List.mem_cons_self
  obtain ⟨hasUser, users⟩ := splitUser_append h.closed h.plain h.noUser first
  have hosts : splitHost s false (host ++ ':' :: port) = (host, ':' :: port) := by
    have split := h.split
    rw [hostOf, if_neg notFile] at split
    exact split
  rw [checkAfterScheme_of_skips notFile h.skipped h.head?] at accepted
  exact checkPort_of_checkAuthority users hosts accepted

/-- In a URL that is accepted, a port follows the colon behind the host. -/
theorem checkPort_of_check {scheme : List Char} (named : ':' ∉ scheme)
    (notFile : kindOf scheme ≠ .file) (h : Parted (kindOf scheme) slashes user host (':' :: port))
    (accepted : check (scheme ++ (mark ++ (slashes ++ (user ++ (host ++ ':' :: port))))) =
      .ok ()) : checkPort (cleanEnd port) = .ok () := by
  have named' : ':' ∉ (scheme.dropWhile (· ≤ ' ')).filter isKept := fun mem =>
    named ((List.dropWhile_suffix _).subset (List.mem_filter.1 mem).1)
  have bare : clean (scheme ++ [':']) = (scheme.dropWhile (· ≤ ' ')).filter isKept ++ [':'] :=
    clean_append _ (by decide) _
  have cleaned : clean (scheme ++ (mark ++ (slashes ++ (user ++ (host ++ ':' :: port))))) =
      (scheme.dropWhile (· ≤ ' ')).filter isKept ++ ':' :: '/' :: '/' ::
        (slashes.filter isKept ++ (user.filter isKept ++
          (host.filter isKept ++ ':' :: cleanEnd port))) := by
    have whole : scheme ++ (mark ++ (slashes ++ (user ++ (host ++ ':' :: port)))) =
        scheme ++ ':' :: (('/' :: '/' :: (slashes ++ (user ++ host))) ++ ':' :: port) := by
      simp [mark]
    rw [whole, clean_append _ (by decide), cleanEnd_append _ (by decide),
      List.filter_cons_of_pos rfl, List.filter_cons_of_pos rfl, List.filter_append,
      List.filter_append]
    simp
  unfold check at accepted
  rw [cleaned, splitScheme?_append named', ← bare] at accepted
  rcases found : splitScheme? (clean (scheme ++ [':'])) with _ | ⟨s, others⟩
  · rw [found] at accepted
    cases accepted
  · obtain rfl : kindOf scheme = s := by
      rw [kindOf, found]
      rfl
    rw [found] at accepted
    exact (h.cleaned notFile).checkPort_eq_ok notFile accepted

theorem endsWord_of_endsAuthority {c : Char} (h : s.endsAuthority c = true) :
    endsWord c = true := by
  rcases of_decide_eq_true h with rfl | rfl | rfl | ⟨-, rfl⟩ <;> decide +kernel

/-- In a URL that is accepted, no letter of a word follows the host. -/
theorem meetsCased_rest {scheme host' : List Char} (named : ':' ∉ scheme)
    (parted : Parted (kindOf scheme) slashes user host rest) (edited : Edited host host')
    (remains : host' = [] → host = []) (some : host ≠ [])
    (accepted : check (scheme ++ (mark ++ (slashes ++ (user ++ (host' ++ rest))))) = .ok ()) :
    meetsCased rest = false := by
  have stops := @head?_hostOf (kindOf scheme) (host ++ rest)
  rw [parted.split] at stops
  rcases rest with _ | ⟨c, port⟩
  · rfl
  · rcases stops some c rfl with ends | ⟨notFile, rfl⟩
    · exact meetsCased_of_endsWord (endsWord_of_endsAuthority ends) port
    · have split : hostOf (kindOf scheme) (host' ++ ':' :: port) = (host', ':' :: port) := by
        have split := parted.split
        rw [hostOf, if_neg notFile] at split ⊢
        exact splitHost_of_edited edited rfl split
      have checked := checkPort_of_check named notFile (parted.edited edited remains split) accepted
      rw [meetsCased_cons, if_pos (by decide +kernel)]
      rcases port with _ | ⟨d, port⟩
      · rfl
      · refine meetsCased_of_endsWord ?_ port
        by_cases blank : d ≤ ' '
        · exact endsWord_of_le blank
        · have there := cleanEnd_append [] (not_le.1 blank) port
          rw [List.nil_append] at there
          rw [there] at checked
          exact (checkPort_cons checked).elim endsWord_of_isDigit endsWord_of_endsAuthority

/-! ## All parts -/

/-- The parts of a URL. -/
structure Parts where
  scheme : List Char
  /-- Slashes behind `://` that are passed over, backslashes among them. -/
  slashes : List Char
  /-- The name and password of a user, with the `@` behind them. -/
  user : List Char
  host : List Char
  /-- The port, the path, the query and the fragment. -/
  rest : List Char
  deriving DecidableEq

namespace Parts

variable {p : Parts}

def toChars (p : Parts) : List Char :=
  p.scheme ++ (mark ++ (p.slashes ++ (p.user ++ (p.host ++ p.rest))))

def kind (p : Parts) : Scheme := kindOf (toLower p.scheme)

/-- The parts with the scheme and the host in lower case. -/
def lower (p : Parts) : Parts :=
  { p with scheme := toLower p.scheme, host := toLower p.host }

/-- Parts that are found where they stand. -/
structure Sound (p : Parts) : Prop where
  named : ':' ∉ p.scheme
  parted : Parted p.kind p.slashes p.user p.host p.rest

theorem kind_lower (p : Parts) : p.lower.kind = p.kind := by
  rw [kind, lower, toLower_toLower, kind]

theorem Sound.lower (h : p.Sound) : p.lower.Sound where
  named mem := h.named ((edited_toLower _).mem rfl mem)
  parted := by
    rw [kind_lower]
    have remains (none : toLower p.host = []) : p.host = [] :=
      by_contra fun some => toLower_ne_nil some none
    exact h.parted.edited (edited_toLower _) remains
      (hostOf_of_edited (edited_toLower _) (toLower_toLower _) h.parted.split)

end Parts

/-- The parts of a text with `://` behind its scheme. -/
def partsOf (cs : List Char) : Parts :=
  let scheme := cs.takeWhile (· ≠ ':')
  let s := kindOf (toLower scheme)
  let behind := cs.drop (scheme.length + mark.length)
  let authority := behind.dropWhile s.skips
  let user := userOf s authority
  let (host, rest) := hostOf s (authority.drop user.length)
  { scheme, slashes := behind.takeWhile s.skips, user, host, rest }

theorem userOf_append_drop (s : Scheme) (cs : List Char) :
    userOf s cs ++ cs.drop (userOf s cs).length = cs :=
  List.prefix_iff_eq_append.1 ((List.rdropWhile_prefix _ _).trans (List.takeWhile_prefix _))

theorem userOf_closed (s : Scheme) (cs : List Char) :
    userOf s cs = [] ∨ ∃ name, userOf s cs = name ++ ['@'] := by
  by_cases none : userOf s cs = []
  · exact .inl none
  · have last : (userOf s cs).getLast none = '@' := by_contra fun other =>
      List.rdropWhile_last_not (· ≠ '@') (cs.takeWhile (!s.endsAuthority ·)) none
        (decide_eq_true other)
    refine .inr ⟨(userOf s cs).dropLast, ?_⟩
    rw [← last, List.dropLast_append_getLast]

theorem plain_of_mem_userOf {cs : List Char} : ∀ c ∈ userOf s cs, s.endsAuthority c = false := by
  intro c mem
  have goesOn := List.mem_takeWhile_imp ((List.rdropWhile_prefix _ _).subset mem)
  simpa using goesOn

theorem noUser_drop (s : Scheme) (cs : List Char) :
    '@' ∉ (cs.drop (userOf s cs).length).takeWhile (!s.endsAuthority ·) := by
  intro mem
  have whole : userOf s cs ++ (cs.drop (userOf s cs).length).takeWhile (!s.endsAuthority ·) =
      userOf s cs ++ (cs.takeWhile (!s.endsAuthority ·)).rtakeWhile (· ≠ '@') := by
    rw [← List.takeWhile_append_of_pos (goesOn_of_plain plain_of_mem_userOf), userOf_append_drop]
    exact List.rdropWhile_append_rtakeWhile.symm
  rw [List.append_cancel_left whole] at mem
  simpa using List.mem_rtakeWhile_imp mem

theorem parted_behind (s : Scheme) (behind : List Char) :
    let authority := behind.dropWhile s.skips
    let user := userOf s authority
    let left := authority.drop user.length
    Parted s (behind.takeWhile s.skips) user (hostOf s left).1 (hostOf s left).2 := by
  intro authority user left
  have joined := hostOf_append s left
  refine ⟨fun c mem => List.mem_takeWhile_imp mem, fun none none' c here => ?_,
    userOf_closed s authority, plain_of_mem_userOf, ?_, ?_⟩
  · have same : (hostOf s left).2 = authority := by
      rw [none', List.nil_append] at joined
      rw [joined]
      show authority.drop user.length = authority
      rw [none]
      rfl
    rw [same] at here
    have stops := List.head?_dropWhile_not s.skips behind
    rw [here] at stops
    simpa using stops
  · rw [joined]
    exact noUser_drop s authority
  · rw [joined]

/-- The parts of a text are found where they stand. -/
theorem sound_partsOf (cs : List Char) : (partsOf cs).Sound where
  named mem := by simpa using List.mem_takeWhile_imp mem
  parted := parted_behind (kindOf (toLower (cs.takeWhile (· ≠ ':'))))
    (cs.drop ((cs.takeWhile (· ≠ ':')).length + mark.length))

/-- The parts of a text make it up. -/
theorem toChars_partsOf {cs : List Char} (marked : mark <+: cs.dropWhile (· ≠ ':')) :
    (partsOf cs).toChars = cs := by
  obtain ⟨behind, marked⟩ := marked
  have whole : cs.takeWhile (· ≠ ':') ++ (mark ++ behind) = cs := by
    rw [marked, List.takeWhile_append_dropWhile]
  have left : cs.drop ((cs.takeWhile (· ≠ ':')).length + mark.length) = behind := by
    calc cs.drop ((cs.takeWhile (· ≠ ':')).length + mark.length)
        = (cs.takeWhile (· ≠ ':') ++ mark ++ behind).drop
            ((cs.takeWhile (· ≠ ':')).length + mark.length) := by
          rw [List.append_assoc, whole]
      _ = behind := List.drop_left' (List.length_append ..)
  calc (partsOf cs).toChars
      = cs.takeWhile (· ≠ ':') ++ (mark ++ behind) := by
        unfold Parts.toChars partsOf
        dsimp only
        rw [hostOf_append, userOf_append_drop, List.takeWhile_append_dropWhile, left]
    _ = cs := whole

/-- Parts are found in the text that they make up. -/
theorem partsOf_toChars {p : Parts} (h : p.Sound) : partsOf p.toChars = p := by
  have scheme : p.toChars.takeWhile (· ≠ ':') = p.scheme :=
    (takeWhile_append_cons (by simp) _ _).trans
      (List.takeWhile_eq_self_iff.2 (differs_of_notMem h.named))
  have behind : p.toChars.drop (p.scheme.length + mark.length) =
      p.slashes ++ (p.user ++ (p.host ++ p.rest)) := by
    rw [Parts.toChars, ← List.append_assoc]
    exact List.drop_left' (List.length_append ..)
  have parted : Parted (kindOf (toLower p.scheme)) p.slashes p.user p.host p.rest := h.parted
  unfold partsOf
  simp only [scheme, behind, parted.takeWhile_skips, parted.dropWhile_skips,
    userOf_append parted.closed parted.plain parted.noUser, List.drop_left, parted.split]

end Chaumian.Url
