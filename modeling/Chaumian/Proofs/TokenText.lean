import Chaumian.Proofs.Secp256k1
import Chaumian.Wallet.Settings

/-!
# The text of a token stands for the token

A token is written as a fixed beginning and its JSON in base64. What reads the text cuts off the
blanks around it and lets some or all of the padding of the base64 be missing: whatever of that a
text has been through, it still stands for the token it was written for (`ofText_surrounded`).
A text that stands for no proofs is refused. So whatever text is accepted, the token it stands for
is written as a text that is accepted for the same token.
-/

namespace Chaumian.Token

variable {S : Suite}

/-! ## What is left of the padding -/

/-- A text that ends in fillers is only cut short within these when fillers are taken off it. -/
theorem eq_append_replicate {α : Type*} {filler : α} {front body : List α} {n m : Nat}
    (visible : filler ∉ front)
    (stripped : body ++ List.replicate n filler = front ++ List.replicate m filler) :
    n ≤ m ∧ body = front ++ List.replicate (m - n) filler := by
  rcases Nat.le_total n m with le | le
  · obtain ⟨k, rfl⟩ := Nat.exists_eq_add_of_le' le
    rw [List.replicate_add, ← List.append_assoc] at stripped
    rw [Nat.add_sub_cancel]
    exact ⟨le, List.append_cancel_right stripped⟩
  · obtain ⟨k, rfl⟩ := Nat.exists_eq_add_of_le' le
    rw [List.replicate_add, ← List.append_assoc] at stripped
    have more := List.append_cancel_right stripped
    cases k with
    | zero =>
      rw [List.replicate_zero, List.append_nil] at more
      rw [Nat.zero_add, Nat.sub_self, List.replicate_zero, List.append_nil]
      exact ⟨le_rfl, more⟩
    | succ k =>
      refine absurd ?_ visible
      rw [← more, List.replicate_succ]
      exact List.mem_append_right _ List.mem_cons_self

/-- Bytes as the characters with their numbers. -/
def characters (bytes : Bytes) : List Char := bytes.map fun b => Char.ofNat b.toNat

/-- The values of the symbols that a token is written with. -/
def values (t : Token S) : List Nat := Base64.cut (Bytes.ofText ((codec S).toText t))

/-- The text of a token without its fillers. -/
def bare (t : Token S) : List Char :=
  beginning ++ characters (t.values.map (Base64.symbol .urlSafe))

/-- How many fillers its text ends in. -/
def fillers (t : Token S) : Nat := (4 - t.values.length % 4) % 4

theorem toList_toText (t : Token S) : t.toText.toList = t.bare ++ List.replicate t.fillers '=' := by
  have padding (k : Nat) : characters (List.replicate k Base64.pad) = List.replicate k '=' :=
    List.map_replicate
  rw [toText, String.toList_ofList, bare, List.append_assoc, Base64.encode_eq, List.map_append,
    ← padding]
  rfl

/-- Neither the beginning of a token nor a symbol is a filler or a blank. -/
theorem visible_of_mem_bare {t : Token S} : ∀ c ∈ t.bare, c ≠ '=' ∧ Text.isBlank c = false := by
  have start : beginning.all (fun c => c ≠ '=' ∧ Text.isBlank c = false) = true := by decide
  have symbols : ∀ v < 64, Char.ofNat (Base64.symbol .urlSafe v).toNat ≠ '=' ∧
      Text.isBlank (Char.ofNat (Base64.symbol .urlSafe v).toNat) = false := by
    decide +kernel
  intro c mem
  rcases List.mem_append.1 mem with mem | mem
  · exact of_decide_eq_true (List.all_eq_true.1 start c mem)
  · obtain ⟨_, isSymbol, rfl⟩ := List.mem_map.1 mem
    obtain ⟨v, there, rfl⟩ := List.mem_map.1 isSymbol
    exact symbols v (Base64.lt_of_mem_cut _ v there)

/-! ## What a text stands for -/

/-- What is left to judge of a text of which the base64 has been decoded. -/
theorem ofText_of_decoded (encodes : S.Encodes) {t : Token S} {text : String} {body : List Char}
    (after : Text.after? beginning (Text.trim text.toList) = some body)
    (decoded : Base64.decode .urlSafe .optional (Bytes.ofText (String.ofList body)) =
      .ok (Bytes.ofText ((codec S).toText t))) :
    ofText S text = if t.proofs = [] then .error .noProofs else .ok t := by
  have json := (restores_codec encodes t).ofText_toText (by decide)
  unfold ofText
  rw [after]
  dsimp only
  rw [decoded]
  show (do
    let json ← (Utf8.decode (Bytes.ofText ((codec S).toText t))).mapError Error.utf8
    let token ← ((codec S).ofText json).mapError Error.json
    if token.proofs = [] then throw Error.noProofs
    return token) = _
  rw [Utf8.decode_ofText]
  show (do
    let token ← ((codec S).ofText ((codec S).toText t)).mapError Error.json
    if token.proofs = [] then throw Error.noProofs
    return token) = _
  rw [json]
  show (if t.proofs = [] then throw Error.noProofs else Except.ok t) = _
  rfl

/-- The text of a token is read as the token, also without some of its padding and with blanks
around it, unless there are no proofs in it. -/
theorem ofText_surrounded (encodes : S.Encodes) {t : Token S} {before body after : List Char}
    {n : Nat} (blankBefore : ∀ c ∈ before, Text.isBlank c)
    (blankAfter : ∀ c ∈ after, Text.isBlank c)
    (stripped : body ++ List.replicate n '=' = t.toText.toList) :
    ofText S (String.ofList (before ++ body ++ after)) =
      if t.proofs = [] then .error .noProofs else .ok t := by
  obtain ⟨-, rest⟩ := eq_append_replicate (fun mem => (visible_of_mem_bare '=' mem).1 rfl)
    (stripped.trans (toList_toText t))
  have trimmed : Text.trim (before ++ body ++ after) = body := by
    refine Text.trim_surrounded blankBefore blankAfter fun c mem => ?_
    rw [rest] at mem
    rcases List.mem_append.1 mem with mem | mem
    · exact (visible_of_mem_bare c mem).2
    · rw [List.eq_of_mem_replicate mem]
      decide
  let symbols := t.values.map (Base64.symbol .urlSafe) ++
    List.replicate (t.fillers - n) Base64.pad
  have ascii : ∀ b ∈ symbols, b.toNat < 128 := by
    intro b mem
    rcases List.mem_append.1 mem with mem | mem
    · obtain ⟨v, there, rfl⟩ := List.mem_map.1 mem
      exact Base64.toNat_symbol .urlSafe (Base64.lt_of_mem_cut _ v there)
    · rw [List.eq_of_mem_replicate mem]
      decide
  have text : body = beginning ++ characters symbols := by
    rw [rest, bare, List.append_assoc, characters, characters, List.map_append, List.map_replicate]
    rfl
  refine ofText_of_decoded encodes (?_ : _ = some (characters symbols)) ?_
  · rw [String.toList_ofList, trimmed, text, Text.after?_append]
  · have bytes : Bytes.ofText (String.ofList (characters symbols)) = symbols :=
      Bytes.ofText_ascii ascii
    rw [bytes]
    exact Base64.decode_symbols .urlSafe _ (Nat.sub_le _ _) nofun

/-- A token with a proof in it is what its text stands for. -/
theorem ofText_toText (encodes : S.Encodes) {t : Token S} (some : t.proofs ≠ []) :
    ofText S t.toText = .ok t := by
  have stripped : t.toText.toList ++ List.replicate 0 '=' = t.toText.toList := List.append_nil _
  have whole := ofText_surrounded encodes (List.forall_mem_nil _) (List.forall_mem_nil _) stripped
  rwa [List.nil_append, List.append_nil, String.ofList_toList, if_neg some] at whole

/-- There is a proof in whatever token a text stands for. -/
theorem proofs_of_ofText {text : String} {t : Token S} (read : ofText S text = .ok t) :
    t.proofs ≠ [] := by
  unfold ofText at read
  split at read
  · obtain ⟨_, -, read⟩ := bind_eq_ok.1 read
    obtain ⟨_, -, read⟩ := bind_eq_ok.1 read
    obtain ⟨token, -, read⟩ := bind_eq_ok.1 read
    split_ifs at read with none
    · cases read
    · exact Except.ok.inj read ▸ none
  · cases read

/-- A token with a proof in it is read from its text, with some of the padding taken off and blanks
put around it. One with none is refused, where it is read and where it is made. The token that a
text is accepted for is read from its own text again. -/
theorem text_restored (encodes : S.Encodes) :
    (∀ (t : Token S) (before body after : List Char) (n : Nat),
      (∀ c ∈ before, Text.isBlank c) → (∀ c ∈ after, Text.isBlank c) →
      body ++ List.replicate n '=' = t.toText.toList →
      let read := ofText S (String.ofList (before ++ body ++ after))
      (t.proofs ≠ [] → read = .ok t) ∧ (t.proofs = [] → read = .error .noProofs)) ∧
    (∀ (mint : MintUrl) (proofs : List (Proof S)) (memo : Option String),
      ofProofs mint proofs memo = .error .noProofs ↔ proofs = []) ∧
    ∀ (text : String) (t : Token S), ofText S text = .ok t → ofText S t.toText = .ok t := by
  refine ⟨fun t before body after n blankBefore blankAfter stripped => ?_,
    fun mint proofs memo => ?_, fun text t read => ?_⟩
  · have judged := ofText_surrounded encodes blankBefore blankAfter stripped
    exact ⟨fun some => judged.trans (if_neg some), fun none => judged.trans (if_pos none)⟩
  · unfold ofProofs
    split_ifs with none
    · exact iff_of_true rfl none
    · exact iff_of_false nofun none
  · exact ofText_toText encodes (proofs_of_ofText read)

end Chaumian.Token

namespace Chaumian.Sample

/-- A token of one proof with a note. -/
def noted : Token Suite.secp256k1 where
  entries := [⟨Settings.defaultMintUrl, [{
    amount := .clamp 8
    keysetId := ⟨List.replicate 9 1, rfl⟩
    secret := ⟨"a \"quoted\" word"⟩
    signature := Secp256k1.Point.generator
    dleq := none }]⟩]
  memo := some "für später"

/-- That token is read from its text without the filler it ends in, between a tabulator and a line
feed. -/
theorem noted_restored : noted.fillers = 1 ∧ Token.ofText Suite.secp256k1
    (String.ofList (['\t'] ++ noted.bare ++ ['\n'])) = .ok noted :=
  ⟨by decide +kernel, ((Token.text_restored Suite.encodes_secp256k1).1 noted ['\t'] noted.bare
    ['\n'] noted.fillers (List.forall_mem_singleton.2 rfl) (List.forall_mem_singleton.2 rfl)
    (Token.toList_toText noted).symm).1 (List.cons_ne_nil _ _)⟩

end Chaumian.Sample
