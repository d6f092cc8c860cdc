import Chaumian.Proofs.TokenText
import Chaumian.Proofs.Url.Parts
import Chaumian.Wallet.Receive

/-!
# Which texts stand for the same mint

The URL of a mint is a text without the slashes at its end, its scheme and host in lower case and
all other parts as they are. Two texts stand for the same URL exactly if they differ in slashes at
the end and in the letter case of scheme and host (`same_mint`), and a wallet takes in the
tokens of its own mint only, however that mint is spelled.

All that stands before the first slash behind the host becomes lower case, though. So it matters
that no other part has capital letters there: `Quiet` says so, and `user_changed` is a user whose
name is not kept.
-/

namespace Chaumian

open Text Url

/-- What of the rest stands before its first slash. -/
def Url.Parts.near (p : Parts) : List Char := p.rest.takeWhile (· ≠ '/')

/-- What of the rest begins with its first slash. -/
def Url.Parts.path (p : Parts) : List Char := p.rest.dropWhile (· ≠ '/')

theorem Url.Parts.near_append_path (p : Parts) : p.near ++ p.path = p.rest :=
  List.takeWhile_append_dropWhile

/-- Parts that differ in the letter case of scheme and host only. -/
structure Url.Parts.Alike (p q : Parts) : Prop where
  scheme : toLower p.scheme = toLower q.scheme
  slashes : p.slashes = q.slashes
  user : p.user = q.user
  host : toLower p.host = toLower q.host
  rest : p.rest = q.rest

theorem Url.Parts.lower_eq_lower_iff {p q : Parts} : p.lower = q.lower ↔ p.Alike q := by
  constructor
  · intro same
    obtain ⟨scheme, slashes, user, host, rest⟩ := Parts.mk.inj same
    exact ⟨scheme, slashes, user, host, rest⟩
  · rintro ⟨scheme, slashes, user, host, rest⟩
    exact Parts.mk.injEq .. ▸ ⟨scheme, slashes, user, host, rest⟩

instance (p q : Parts) : Decidable (p.Alike q) := decidable_of_iff _ Parts.lower_eq_lower_iff

namespace MintUrl

/-! ## The normal form of a text that is taken apart -/

/-- The parts of a text without the slashes at its end. -/
def parts (text : String) : Parts := Url.partsOf (dropSlashes text.toList)

/-- The scheme stands right before `://`, the host before the first slash behind it. -/
structure Placed (text : String) : Prop where
  marked : mark <+: (dropSlashes text.toList).dropWhile (· ≠ ':')
  hosted : '/' ∉ (parts text).slashes

/-- There are no capital letters around the host: in the user, and in the rest up to its first
slash. -/
def Quiet (text : String) : Prop := ∀ c ∈ (parts text).user ++ (parts text).near, IsLower c

instance (text : String) : Decidable (Quiet text) := decidable_of_iff
  (((parts text).user ++ (parts text).near).all fun c => decide (IsLower c)) <| by
    simp only [List.all_eq_true, decide_eq_true_eq, Quiet]

instance (text : String) : Decidable (Placed text) := decidable_of_iff
  (mark <+: (dropSlashes text.toList).dropWhile (· ≠ ':') ∧ '/' ∉ (parts text).slashes)
  ⟨fun placed => ⟨placed.1, placed.2⟩, fun placed => ⟨placed.marked, placed.hosted⟩⟩

theorem splitScheme?_mark {scheme : List Char} (named : ':' ∉ scheme) (rest : List Char) :
    splitScheme? (scheme ++ (mark ++ rest)) = some (scheme, rest) := by
  induction scheme with
  | nil => rfl
  | cons c scheme ih =>
    have apart (others : List Char) : c :: (scheme ++ (mark ++ rest)) ≠ mark ++ others := by
      intro same
      exact named (by rw [(List.cons.inj same).1]; exact List.mem_cons_self)
    rw [List.cons_append, splitScheme?_cons apart,
      ih fun mem => named (List.mem_cons_of_mem _ mem)]
    rfl

theorem normalize_eq_ok {cs normal : List Char} (h : normalize cs = .ok normal) :
    normalForm? cs = some normal ∧ check normal = .ok () := by
  unfold normalize at h
  split at h
  · cases h
  · rename_i normal' form
    obtain ⟨_, checked, h⟩ := bind_eq_ok.1 h
    cases h
    refine ⟨form, ?_⟩
    rcases ran : check normal with _ | _
    · rw [ran] at checked
      cases checked
    · rfl

theorem normalize_of_ofText {text : String} {url : MintUrl} (h : ofText text = .ok url) :
    normalize text.toList = .ok url.text.toList := by
  unfold ofText at h
  split at h
  · rename_i normal same
    cases h
    simpa using same
  · cases h

/-- What precedes a host ends without a letter. -/
theorem meetsCased_before {s : Scheme} {slashes user host rest : List Char}
    (h : Parted s slashes user host rest) : meetsCased (slashes ++ user).reverse = false := by
  rcases h.closed with rfl | ⟨name, rfl⟩
  · rw [List.append_nil]
    have skipped : ∀ c ∈ slashes.reverse, s.skips c = true := fun c mem =>
      h.skipped c (List.mem_reverse.1 mem)
    generalize slashes.reverse = cs at skipped
    rcases cs with _ | ⟨c, cs⟩
    · rfl
    · exact meetsCased_of_endsWord
        (endsWord_of_endsAuthority (endsAuthority_of_skips (skipped c List.mem_cons_self))) cs
  · rw [← List.append_assoc, List.reverse_append]
    exact meetsCased_of_endsWord (by decide +kernel) _

/-- The first slash behind the host ends what becomes lower case. -/
theorem authority_eq {before rest authority path : List Char} (hosted : '/' ∉ before)
    (plain : '/' ∉ authority) (tail : path = [] ∨ ∃ first others, path = '/' :: first :: others)
    (same : before ++ rest = authority ++ path) :
    authority = before ++ rest.takeWhile (· ≠ '/') ∧ path = rest.dropWhile (· ≠ '/') := by
  have first : authority = before ++ rest.takeWhile (· ≠ '/') := by
    calc authority
        = (authority ++ path).takeWhile (· ≠ '/') := by
          rw [List.takeWhile_append_of_pos (differs_of_notMem plain)]
          rcases tail with rfl | ⟨first, others, rfl⟩
          · rw [List.takeWhile_nil, List.append_nil]
          · rw [List.takeWhile_cons_of_neg (by simp), List.append_nil]
      _ = before ++ rest.takeWhile (· ≠ '/') := by
          rw [← same, List.takeWhile_append_of_pos (differs_of_notMem hosted)]
  refine ⟨first, ?_⟩
  rw [first, List.append_assoc] at same
  have left := List.append_cancel_left same
  refine (List.append_right_inj (rest.takeWhile (· ≠ '/'))).1 ?_
  rw [← left, List.takeWhile_append_dropWhile]

variable {text : String} {url : MintUrl}

theorem toChars_parts (placed : Placed text) : (parts text).toChars = dropSlashes text.toList :=
  toChars_partsOf placed.marked

theorem isLower_of_skips {s : Scheme} {c : Char} (h : s.skips c = true) : IsLower c := by
  obtain ⟨-, rfl | rfl⟩ := of_decide_eq_true h <;> decide

/-- Between characters that are in lower case, a host becomes lower case by itself if no letter of
a word is next to it. -/
theorem toLower_around {before near : List Char} (host : List Char)
    (small : ∀ c ∈ before, IsLower c) (small' : ∀ c ∈ near, IsLower c)
    (starts : meetsCased before.reverse = false) :
    ∃ host', Edited host host' ∧ (host' = [] → host = []) ∧
      toLower (before ++ (host ++ near)) = before ++ (host' ++ near) ∧
      (meetsCased near = false → host' = toLower host) := by
  obtain ⟨host', edited, remains, same⟩ := edited_lowerAfter before.reverse host near
  rw [lowerAfter_of_isLower small'] at same
  refine ⟨host', edited, remains, ?_, fun ends => ?_⟩
  · rw [toLower, lowerAfter_append_of_isLower small, List.append_nil, same]
  · rw [lowerAfter_append ends, lowerAfter_of_isLower small'] at same
    rw [← List.append_cancel_right same]
    exact lowerAfter_append_before starts [] host

/-- What ends before the first slash ends as all of the rest does. -/
theorem meetsCased_takeWhile (cs : List Char) :
    meetsCased (cs.takeWhile (· ≠ '/')) = meetsCased cs := by
  have ends : meetsCased (cs.dropWhile (· ≠ '/')) = false := by
    have stops := List.head?_dropWhile_not (· ≠ '/') cs
    generalize cs.dropWhile (· ≠ '/') = left at stops
    rcases left with _ | ⟨c, left⟩
    · rfl
    · obtain rfl : c = '/' := by simpa using stops
      exact meetsCased_of_endsWord (by decide +kernel) left
  conv_rhs => rw [← List.takeWhile_append_dropWhile (p := (· ≠ '/')) (l := cs)]
  exact (meetsCased_append ends _).symm

theorem check_text (accepted : ofText text = .ok url) : check url.text.toList = .ok () :=
  (normalize_eq_ok (normalize_of_ofText accepted)).2

/-- All that stands before the first slash behind the host becomes lower case. -/
theorem toList_text {p : Parts} (accepted : ofText text = .ok url) (placed : Placed text)
    (taken : parts text = p) : url.text.toList = toLower p.scheme ++
      (mark ++ (toLower (p.slashes ++ p.user ++ (p.host ++ p.near)) ++ p.path)) := by
  obtain ⟨form, -⟩ := normalize_eq_ok (normalize_of_ofText accepted)
  obtain ⟨scheme, authority, path, whole, ends, -, plain, tail, -, normal⟩ :=
    normalForm?_eq_some form
  have sound : (parts text).Sound := sound_partsOf _
  have hosted := placed.hosted
  rw [← toChars_parts placed] at whole
  rw [normal]
  rw [taken] at whole sound hosted
  rw [← whole, Parts.toChars, splitScheme?_mark sound.named] at ends
  obtain ⟨rfl, behind⟩ := Prod.mk.inj (Option.some.inj ends)
  have slash {cs : List Char} (inside : ∀ c ∈ cs, p.kind.endsAuthority c = false) : '/' ∉ cs := by
    intro mem
    cases inside '/' mem
  have before : '/' ∉ p.slashes ++ (p.user ++ p.host) := by
    simp only [List.mem_append, not_or]
    exact ⟨hosted, slash sound.parted.plain, slash (plain_of_hostOf sound.parted.split)⟩
  have behind : p.slashes ++ (p.user ++ p.host) ++ p.rest = authority ++ path := by
    simpa using behind
  obtain ⟨rfl, rfl⟩ := authority_eq before plain tail behind
  simp only [List.append_assoc, Parts.near, Parts.path]

/-- The scheme and the host of a text are in lower case in its URL and all other parts are kept,
exactly if there are no capital letters around the host. -/
theorem toList_text_iff (accepted : ofText text = .ok url) (placed : Placed text) :
    url.text.toList = (parts text).lower.toChars ↔ Quiet text := by
  have sound : (parts text).Sound := sound_partsOf _
  have checked := check_text accepted
  have normal := toList_text accepted placed rfl
  unfold Quiet
  generalize parts text = p at *
  have joined (host' : List Char) : p.slashes ++ p.user ++ (host' ++ p.near) ++ p.path =
      p.slashes ++ (p.user ++ (host' ++ p.rest)) := by
    simp only [List.append_assoc, p.near_append_path]
  have lowered : p.lower.toChars = toLower p.scheme ++
      (mark ++ (p.slashes ++ p.user ++ (toLower p.host ++ p.near) ++ p.path)) := by
    rw [joined]
    rfl
  constructor
  · intro kept c mem
    rw [normal, lowered] at kept
    have same := List.append_cancel_right
      (List.append_cancel_left (List.append_cancel_left kept))
    have there : c ∈ toLower (p.slashes ++ p.user ++ (p.host ++ p.near)) := by
      rw [same]
      rcases List.mem_append.1 mem with user | near
      · exact List.mem_append_left _ (List.mem_append_right _ user)
      · exact List.mem_append_right _ (List.mem_append_right _ near)
    exact isLower_of_mem_lowerAfter [] _ c there
  · intro quiet
    have before : ∀ c ∈ p.slashes ++ p.user, IsLower c := List.forall_mem_append.2
      ⟨fun c mem => isLower_of_skips (sound.parted.skipped c mem),
        fun c mem => quiet c (List.mem_append_left _ mem)⟩
    obtain ⟨host', edited, remains, lower, alone⟩ := toLower_around p.host before
      (fun c mem => quiet c (List.mem_append_right _ mem)) (meetsCased_before sound.parted)
    rw [lower] at normal
    have same : host' = toLower p.host := by
      by_cases none : p.host = []
      · rw [none] at edited ⊢
        cases edited
        rfl
      · refine alone ((meetsCased_takeWhile p.rest).trans ?_)
        rw [normal, joined] at checked
        exact meetsCased_rest sound.lower.named sound.parted edited remains none checked
    rw [normal, lowered, same]

/-! ## Texts that stand for the same mint -/

/-- A text that stands for the URL of a mint and is kept in it but for the letters of its scheme and
host. -/
structure Spells (text : String) (url : MintUrl) : Prop where
  accepted : ofText text = .ok url
  placed : Placed text
  quiet : Quiet text

theorem partsOf_text_iff (accepted : ofText text = .ok url) (placed : Placed text) :
    Url.partsOf url.text.toList = (parts text).lower ↔ Quiet text := by
  rw [← toList_text_iff accepted placed]
  have sound : (parts text).Sound := sound_partsOf _
  have normal := toList_text accepted placed rfl
  generalize parts text = p at *
  constructor
  · intro same
    have named : ':' ∉ toLower p.scheme := sound.lower.named
    have marked : mark <+: url.text.toList.dropWhile (· ≠ ':') := by
      rw [normal, List.dropWhile_append_of_pos (differs_of_notMem named)]
      exact ⟨_, rfl⟩
    rw [← same, toChars_partsOf marked]
  · intro same
    rw [same]
    exact partsOf_toChars sound.lower

theorem eq_iff_alike {other : String} {url' : MintUrl} (spells : Spells text url)
    (spells' : Spells other url') : url = url' ↔ (parts text).Alike (parts other) := by
  rw [← Parts.lower_eq_lower_iff]
  constructor
  · rintro rfl
    rw [← (partsOf_text_iff spells.accepted spells.placed).2 spells.quiet]
    exact (partsOf_text_iff spells'.accepted spells'.placed).2 spells'.quiet
  · intro same
    have whole := (toList_text_iff spells.accepted spells.placed).2 spells.quiet
    rw [same, ← (toList_text_iff spells'.accepted spells'.placed).2 spells'.quiet] at whole
    obtain ⟨text, _⟩ := url
    obtain ⟨text', _⟩ := url'
    obtain rfl : text = text' := String.toList_inj.1 whole
    rfl

end MintUrl

namespace Wallet

open Operation

variable {S : Suite} {settings : Settings} {text : String} {token : Token S}

theorem receive_of_ofText (read : Token.ofText S text = .ok token) : receive settings text = (do
    if let some other := token.mints.find? (· ≠ settings.mintUrl) then
      throw (.wrongMint other.text)
    totalOf (← redeem settings token.proofs)) := by
  rw [receive, read]
  rfl

theorem receive_own (read : Token.ofText S text = .ok token)
    (own : ∀ mint ∈ token.mints, mint = settings.mintUrl) :
    receive settings text = (do totalOf (← redeem settings token.proofs)) := by
  have none : token.mints.find? (· ≠ settings.mintUrl) = none :=
    List.find?_eq_none.2 fun mint mem => by simpa using own mint mem
  rw [receive_of_ofText read, none]

theorem receive_other (read : Token.ofText S text = .ok token) {mint : MintUrl}
    (mem : mint ∈ token.mints) (other : mint ≠ settings.mintUrl) :
    ∃ first ∈ token.mints, first ≠ settings.mintUrl ∧
      receive settings text = (throw (.wrongMint first.text) : Operation S Amount) := by
  rcases found : token.mints.find? (· ≠ settings.mintUrl) with _ | first
  · exact absurd (decide_eq_true other) (List.find?_eq_none.1 found mint mem)
  · refine ⟨first, List.mem_of_find?_eq_some found, by simpa using List.find?_some found, ?_⟩
    rw [receive_of_ofText read, found]
    rfl

end Wallet

namespace MintUrl

open Wallet Operation

/-- Where its scheme and host stand in their places, a text is kept in the URL of its mint, but for
the letters of the scheme and the host, exactly if no capital letters stand around the host. Two
such texts stand for the same mint exactly if they differ in slashes at the end and in the letter
case of scheme and host. A wallet takes in a token of its mint, however the mint is spelled there
and here, and no token of another mint. -/
theorem same_mint {text : String} {url : MintUrl} (accepted : ofText text = .ok url)
    (placed : Placed text) :
    (Url.partsOf url.text.toList = (parts text).lower ↔ Quiet text) ∧
    (Quiet text →
      (∀ {other : String} {url' : MintUrl}, Spells other url' →
        (url = url' ↔ (parts text).Alike (parts other))) ∧
      ∀ {S : Suite} (settings : Settings) {written : String} {token : Token S},
        settings.mintUrl = url → Token.ofText S written = .ok token →
        ((∀ mint ∈ token.mints, ∃ other, Spells other mint ∧ (parts text).Alike (parts other)) →
          receive settings written = (do totalOf (← redeem settings token.proofs))) ∧
        ∀ mint ∈ token.mints, ∀ other, Spells other mint → ¬(parts text).Alike (parts other) →
          ∃ first ∈ token.mints, first ≠ url ∧
            receive settings written =
              (throw (.wrongMint first.text) : Operation S Amount)) := by
  refine ⟨partsOf_text_iff accepted placed, fun quiet => ?_⟩
  have spells : Spells text url := ⟨accepted, placed, quiet⟩
  refine ⟨fun spells' => eq_iff_alike spells spells', ?_⟩
  rintro S settings written token rfl read
  constructor
  · intro own
    refine receive_own read fun mint mem => ?_
    obtain ⟨other, spells', alike⟩ := own mint mem
    exact ((eq_iff_alike spells spells').2 alike).symm
  · intro mint mem other spells' differs
    exact receive_other read mem fun same => differs ((eq_iff_alike spells spells').1 same.symm)

end MintUrl

namespace Sample

open MintUrl Wallet Operation

/-- A mint with a user, a port and a path. -/
def pathed : MintUrl where
  text := "https://alice@mint.example:3338/Path"
  normal := ⟨_, normalize_of_toOption (by decide +kernel :
    (normalize "https://alice@mint.example:3338/Path".toList).toOption = _)⟩

theorem spells_pathed : Spells "HTTPS://alice@Mint.Example:3338/Path//" pathed :=
  ⟨by decide +kernel, by decide +kernel, by decide +kernel⟩

theorem spells_localhost : Spells "HTTP://LocalHost:3338//" Settings.defaultMintUrl :=
  ⟨by decide +kernel, by decide +kernel, by decide +kernel⟩

/-- A token of `http://localhost:3338` is taken in by a wallet of `HTTP://LocalHost:3338//`, and not
by one of `HTTPS://alice@Mint.Example:3338/Path//`. -/
theorem noted_at_home : Spells "HTTP://LocalHost:3338//" Settings.defaultMintUrl ∧
    receive .default noted.toText = (do totalOf (← redeem .default noted.proofs)) ∧
    Url.partsOf pathed.text.toList = ⟨"https".toList, [], "alice@".toList, "mint.example".toList,
      ":3338/Path".toList⟩ ∧
    receive { Settings.default with mintUrl := pathed } noted.toText =
      (throw (.wrongMint "http://localhost:3338") : Operation Suite.secp256k1 Amount) := by
  have there : Spells "http://localhost:3338" Settings.defaultMintUrl :=
    ⟨by decide +kernel, by decide +kernel, by decide +kernel⟩
  have read : Token.ofText Suite.secp256k1 noted.toText = .ok noted :=
    Token.ofText_toText Suite.encodes_secp256k1 (List.cons_ne_nil _ _)
  have only : ∀ mint ∈ noted.mints, mint = Settings.defaultMintUrl :=
    fun mint mem => List.mem_singleton.1 mem
  obtain ⟨-, home⟩ := (same_mint spells_localhost.accepted spells_localhost.placed).2
    spells_localhost.quiet
  obtain ⟨kept, elsewhere⟩ := same_mint spells_pathed.accepted spells_pathed.placed
  refine ⟨spells_localhost, (home .default rfl read).1 fun mint mem => ?_,
    (kept.2 spells_pathed.quiet).trans (by decide +kernel), ?_⟩
  · exact ⟨_, only mint mem ▸ there, by decide +kernel⟩
  · obtain ⟨first, mem, -, refused⟩ := ((elsewhere spells_pathed.quiet).2
      { Settings.default with mintUrl := pathed } rfl read).2 _ List.mem_cons_self _ there
      (by decide +kernel)
    rw [only first mem] at refused
    exact refused

/-- The name of a user is not kept: it becomes lower case with the host behind it. -/
theorem user_changed : ofText "https://Alice@mint.example:3338/Path" = .ok pathed ∧
    ofText "https://alice@mint.example:3338/Path" = .ok pathed ∧
    ¬(parts "https://Alice@mint.example:3338/Path").Alike
      (parts "https://alice@mint.example:3338/Path") := by
  refine ⟨?_, ?_, ?_⟩ <;> decide +kernel

end Sample

end Chaumian
