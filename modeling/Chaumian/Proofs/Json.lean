import Chaumian.Json.Record
import Chaumian.Proofs.Outcome

/-!
# What is written as JSON is read again

A codec `Restores` a value if the text it writes for the value is read as that value, whatever
stands behind the text, as long as it ends a value. Strings, numbers, truth values and the names of
small types are restored, and what may be absent, lists, entries under numbers and records whose
parts are.
-/

namespace Chaumian.Json

/-- What may stand behind a value: nothing, what goes on after it, or what closes what is around
it, which for the number of a name is a quote. -/
def Ended (rest : List Char) : Prop :=
  ∀ c ∈ rest.head?, c = ',' ∨ c = ']' ∨ c = '\x7d' ∨ c = '"'

theorem ended_cons {c : Char} {rest : List Char} (h : c = ',' ∨ c = ']' ∨ c = '\x7d' ∨ c = '"') :
    Ended (c :: rest) := by
  intro d mem
  obtain rfl : c = d := by simpa using mem
  exact h

theorem ended_nil : Ended [] := nofun

/-- Whether a character may begin the text of a value that is restored. Blanks are passed over, and
a bracket ends a list in place of a value. -/
def Opens (c : Char) : Prop := isBlank c = false ∧ c ≠ ']'

instance (c : Char) : Decidable (Opens c) :=
  inferInstanceAs (Decidable (isBlank c = false ∧ c ≠ ']'))

theorem skipBlank_of_opens {c : Char} (opens : Opens c) (cs : List Char) :
    skipBlank (c :: cs) = c :: cs :=
  List.dropWhile_cons_of_neg (by rw [opens.1]; exact Bool.false_ne_true)

theorem opens_of_isDigit {c : Char} (digit : c.isDigit = true) : Opens c := by
  refine ⟨?_, ?_⟩
  · rw [isBlank, decide_eq_false_iff_not]
    rintro (rfl | rfl | rfl | rfl) <;> exact absurd digit (by decide)
  · rintro rfl
    exact absurd digit (by decide)

/-- The codec reads what it has written for a value, and leaves what follows. So many levels of
arrays and objects are enough. -/
structure Codec.Restores {α : Type} (codec : Codec α) (levels : Nat) (x : α) : Prop where
  opens : ∃ c cs, codec.write x = c :: cs ∧ Opens c
  read : ∀ depth, levels ≤ depth → ∀ rest, Ended rest →
    codec.read depth (codec.write x ++ rest) = .ok (x, rest)

/-! ## Strings -/

theorem hexUnit?_control {n : Nat} (small : n < 32) :
    hexUnit? '0' '0' (if n < 16 then '0' else '1') (Nat.digitChar (n % 16)) = some n := by
  revert n
  decide

theorem readString_escape (c : Char) (text : List Char) :
    readString (escape c ++ text) = consChar c (readString text) := by
  unfold escape
  split
  · subst c; rfl
  rename_i quote
  split
  · subst c; rfl
  rename_i backslash
  split
  · subst c; rfl
  split
  · subst c; rfl
  split
  · subst c; rfl
  split
  · subst c; rfl
  split
  · subst c; rfl
  split
  · rename_i control
    have unit := hexUnit?_control control
    have whole : isHalf c.toNat = false := by
      rw [isHalf, decide_eq_false_iff_not]
      omega
    simp only [List.cons_append, List.nil_append]
    rw [readString, unit]
    dsimp only
    rw [whole, Char.ofNat_toNat]
    rfl
  · rename_i control
    rw [List.singleton_append, readString, if_neg (by simp [control, backslash])]
    · exact quote
    · rintro _ _ _ _ _ rfl
      exact absurd rfl backslash
    · rintro _ _ rfl
      exact absurd rfl backslash

theorem readString_append (cs rest : List Char) :
    readString (cs.flatMap escape ++ '"' :: rest) = .ok (cs, rest) := by
  induction cs with
  | nil => rfl
  | cons c cs ih =>
    rw [List.flatMap_cons, List.append_assoc, readString_escape, ih]
    rfl

/-! ## Numbers -/

theorem head?_toDigits {n : Nat} (positive : 0 < n) : (Nat.toDigits 10 n).head? ≠ some '0' := by
  induction n using Nat.strongRecOn with
  | _ n ih =>
    by_cases single : n < 10
    · have each : ∀ d < 10, 0 < d → [Nat.digitChar d].head? ≠ some '0' := by decide
      rw [Nat.toDigits_of_lt_base single]
      exact each n single positive
    · rw [Nat.toDigits_of_base_le (by decide) (by omega),
        List.head?_append_of_ne_nil _ Nat.toDigits_ne_nil]
      exact ih (n / 10) (by omega) (by omega)

theorem isDigit_of_mem_toDigits {n : Nat} : ∀ c ∈ Nat.toDigits 10 n, c.isDigit = true :=
  fun _ mem => Nat.isDigit_of_mem_toDigits (by decide) (by decide) mem

/-- The digits of a number that fits 64 bits are all taken up. -/
theorem takeDigits_eq (digits : List Char) (n : Nat)
    (fits : Nat.ofDigitChars 10 digits n < Nat.pow 2 64) :
    takeDigits n digits = (Nat.ofDigitChars 10 digits n, 0) := by
  induction digits generalizing n with
  | nil => rfl
  | cons c cs ih =>
    have next : Nat.ofDigitChars 10 (c :: cs) n = Nat.ofDigitChars 10 cs (n * 10 + digit c) := by
      rw [Nat.ofDigitChars_cons, Nat.mul_comm]
      rfl
    rw [next] at fits ⊢
    have grows : n * 10 + digit c ≤ Nat.ofDigitChars 10 cs (n * 10 + digit c) := by
      rw [Nat.ofDigitChars_eq_ofDigitChars_zero]
      exact Nat.le_trans (Nat.le_mul_of_pos_left _ (Nat.pow_pos (by decide)))
        (Nat.le_add_right _ _)
    rw [takeDigits, if_pos (Nat.lt_of_le_of_lt grows fits), ih _ fits]

theorem takeWhile_isDigit {rest : List Char} (ended : Ended rest) (n : Nat) :
    (Nat.toDigits 10 n ++ rest).takeWhile Char.isDigit = Nat.toDigits 10 n := by
  rw [List.takeWhile_append_of_pos isDigit_of_mem_toDigits]
  cases rest with
  | nil => rw [List.takeWhile_nil, List.append_nil]
  | cons c rest =>
    have ends := ended c (by simp)
    rw [List.takeWhile_cons_of_neg, List.append_nil]
    rcases ends with rfl | rfl | rfl | rfl <;> decide

/-- No exponent stands where a value has ended. -/
theorem readExponent?_of_ended {rest : List Char} (ended : Ended rest) :
    readExponent? rest = .ok (none, rest) := by
  cases rest with
  | nil => rfl
  | cons c rest => rcases ended c (by simp) with rfl | rfl | rfl | rfl <;> rfl

/-- A number that fits 64 bits is read from its digits up to what ends it. -/
theorem readNumber_toDigits (minus : Bool) {n : Nat} (fits : n < Nat.pow 2 64) {rest : List Char}
    (ended : Ended rest) :
    readNumber minus (Nat.toDigits 10 n ++ rest) = .ok (wholeNumber minus n, rest) := by
  have leading : ¬(Nat.toDigits 10 n = [] ∨
      (Nat.toDigits 10 n).head? = some '0' ∧ (Nat.toDigits 10 n).length > 1) := by
    rintro (none | ⟨zero, long⟩)
    · exact Nat.toDigits_ne_nil none
    · rcases Nat.eq_zero_or_pos n with rfl | positive
      · rw [Nat.toDigits_zero] at long
        exact absurd long (by decide)
      · exact head?_toDigits positive zero
  have taken : takeDigits 0 (Nat.toDigits 10 n) = (n, 0) := by
    rw [takeDigits_eq _ _ (by rw [Nat.ofDigitChars_ten_toDigits]; exact fits),
      Nat.ofDigitChars_ten_toDigits]
  have noFraction : readFraction? n rest = .ok (none, rest) := by
    cases rest with
    | nil => rfl
    | cons c rest => rcases ended c (by simp) with rfl | rfl | rfl | rfl <;> rfl
  unfold readNumber
  rw [takeWhile_isDigit ended]
  dsimp only
  rw [if_neg leading, taken, List.drop_left]
  dsimp only [bind, Except.bind]
  rw [noFraction]
  dsimp only
  rw [readExponent?_of_ended ended]
  rfl

theorem readSigned_of_isDigit {c : Char} (digit : c.isDigit = true) (cs : List Char) :
    readSigned (c :: cs) = readNumber false (c :: cs) := by
  unfold readSigned
  split
  · rename_i same
    rw [(List.cons.inj same).1] at digit
    exact absurd digit (by decide)
  · rfl

namespace Codec

variable {α β : Type} {codec : Codec α} {levels : Nat} {x : α}

theorem restores_stringAs (expected s : String) : (stringAs expected).Restores 0 s where
  opens := ⟨'"', _, rfl, by decide⟩
  read depth _ rest _ := by
    have text : (stringAs expected).write s ++ rest =
        '"' :: (s.toList.flatMap escape ++ '"' :: rest) := by
      simp [stringAs, writeString]
    rw [text]
    show (readString _ >>= fun (p : List Char × List Char) =>
      Except.ok (String.ofList p.1, p.2)) = _
    rw [readString_append]
    show Except.ok (String.ofList s.toList, rest) = _
    rw [String.ofList_toList]

theorem restores_unsigned {bits : Nat} (le : bits ≤ 64) (n : Fin (Nat.pow 2 bits)) :
    (unsigned bits).Restores 0 n := by
  have fits : n.val < Nat.pow 2 64 :=
    Nat.lt_of_lt_of_le n.isLt (Nat.pow_le_pow_right (by decide) le)
  have text : (unsigned bits).write n = Nat.toDigits 10 n.val := Nat.toList_repr
  rcases digits : Nat.toDigits 10 n.val with _ | ⟨c, cs⟩
  · exact absurd digits Nat.toDigits_ne_nil
  have digit : c.isDigit = true := isDigit_of_mem_toDigits c (digits ▸ List.mem_cons_self)
  have opens := opens_of_isDigit digit
  refine ⟨⟨c, cs, text.trans digits, opens⟩, fun depth _ rest ended => ?_⟩
  have read : readNumber false (Nat.toDigits 10 n.val ++ rest) = .ok (.natural n.val, rest) :=
    readNumber_toDigits false fits ended
  rw [text]
  rw [digits, List.cons_append] at read ⊢
  show readFin bits _ (c :: (cs ++ rest)) = _
  unfold readFin
  rw [skipBlank_of_opens opens]
  dsimp only
  rw [if_pos (.inr digit), readSigned_of_isDigit digit, read]
  dsimp only [bind, Except.bind]
  rw [Number.toFin, dif_pos n.isLt]
  rfl

/-- What is restored with some levels is restored with more. -/
theorem Restores.of_le (h : codec.Restores levels x) {levels' : Nat} (le : levels ≤ levels') :
    codec.Restores levels' x :=
  ⟨h.opens, fun depth enough => h.read depth (Nat.le_trans le enough)⟩

theorem Restores.map {f : α → β} {g : β → α} {y : β} (h : codec.Restores levels (g y))
    (same : f (g y) = y) : (codec.map f g).Restores levels y where
  opens := h.opens
  read depth enough rest ended := by
    have read := h.read depth enough rest ended
    dsimp only [Codec.map]
    rw [read]
    show Except.ok (f (g y), rest) = _
    rw [same]

theorem Restores.refine {f : α → Except String β} {g : β → α} {y : β}
    (h : codec.Restores levels (g y)) (same : f (g y) = .ok y) :
    (codec.refine f g).Restores levels y where
  opens := h.opens
  read depth enough rest ended := by
    have read := h.read depth enough rest ended
    dsimp only [Codec.refine]
    rw [read]
    dsimp only [bind, Except.bind]
    rw [same]
    rfl

/-- No value is written as what would be taken for `null`. -/
def NeverNull (codec : Codec α) : Prop := ∀ x cs, codec.write x ≠ 'n' :: cs

theorem neverNull_stringAs (expected : String) : (stringAs expected).NeverNull :=
  fun _ _ same => absurd (List.cons.inj same).1 (by decide)

theorem NeverNull.map (h : codec.NeverNull) (f : α → β) (g : β → α) : (codec.map f g).NeverNull :=
  fun y => h (g y)

theorem NeverNull.refine (h : codec.NeverNull) (f : α → Except String β) (g : β → α) :
    (codec.refine f g).NeverNull :=
  fun y => h (g y)

/-- A value that is there is written as itself, which must not be taken for `null`. -/
theorem Restores.option {o : Option α} (h : ∀ x ∈ o, codec.Restores levels x)
    (never : codec.NeverNull) : codec.option.Restores levels o := by
  cases o with
  | none => exact ⟨⟨'n', _, rfl, by decide⟩, fun _ _ _ _ => rfl⟩
  | some x =>
    have restored := h x rfl
    refine ⟨restored.opens, fun depth enough rest ended => ?_⟩
    obtain ⟨c, cs, text, opens⟩ := restored.opens
    have read := restored.read depth enough rest ended
    rw [text, List.cons_append] at read
    dsimp only [Codec.option]
    rw [text, List.cons_append, skipBlank_of_opens opens]
    split
    · rename_i same
      exact absurd (text.trans (congrArg (· :: cs) (List.cons.inj same).1)) (never x cs)
    · rw [read]
      rfl

/-! ## Truth values and the names of small types -/

theorem restores_bool (b : Bool) : Codec.bool.Restores 0 b := by
  cases b
  · exact ⟨⟨'f', _, rfl, by decide⟩, fun _ _ _ _ => rfl⟩
  · exact ⟨⟨'t', _, rfl, by decide⟩, fun _ _ _ _ => rfl⟩

/-- A value is found by its name, if no two values have the same. -/
theorem restores_variants {values : List α} {name : α → String} (mem : x ∈ values)
    (distinct : ∀ y ∈ values, name y = name x → y = x) :
    (variants values name).Restores 0 x where
  opens := ⟨'"', _, rfl, by decide⟩
  read depth _ rest _ := by
    have text : (variants values name).write x ++ rest =
        '"' :: ((name x).toList.flatMap escape ++ '"' :: rest) := by
      simp [variants, writeString]
    have found : values.find? (name · = String.ofList (name x).toList) = some x := by
      rw [String.ofList_toList]
      rcases one : values.find? (name · = name x) with _ | y
      · exact absurd (decide_eq_true rfl) (List.find?_eq_none.1 one x mem)
      · have same := List.find?_some one
        rw [distinct y (List.mem_of_find?_eq_some one) (of_decide_eq_true same)]
    rw [text]
    have quote (cs : List Char) : skipBlank ('"' :: cs) = '"' :: cs := rfl
    unfold variants readVariant
    simp only [quote]
    rw [readString_append]
    dsimp only [bind, Except.bind]
    rw [found]
    rfl

end Codec

/-! ## Parts with commas between them -/

/-- The text of the parts that are still to be read: all of them, or those behind the first. -/
def remaining (first : Bool) (parts : List (List Char)) : List Char :=
  if first then joinCommas parts else parts.flatMap (',' :: ·)

theorem joinCommas_cons (a : List Char) (parts : List (List Char)) :
    joinCommas (a :: parts) = a ++ remaining false parts := by
  induction parts generalizing a with
  | nil => exact (List.append_nil a).symm
  | cons b parts ih => rw [joinCommas, ih]; rfl

/-- Each part has at least one character. -/
theorem length_le_joinCommas {parts : List (List Char)} (h : ∀ part ∈ parts, part ≠ []) :
    parts.length ≤ (joinCommas parts).length := by
  have commas (parts : List (List Char)) : parts.length ≤ (remaining false parts).length := by
    induction parts with
    | nil => exact Nat.le_refl 0
    | cons a parts ih =>
      have text : remaining false (a :: parts) = ',' :: (a ++ remaining false parts) := rfl
      rw [text, List.length_cons, List.length_cons, List.length_append]
      omega
  cases parts with
  | nil => exact Nat.le_refl 0
  | cons a parts =>
    have some := List.length_pos_of_ne_nil (h a List.mem_cons_self)
    have others := commas parts
    rw [joinCommas_cons, List.length_append, List.length_cons]
    omega

theorem ended_remaining (parts : List (List Char)) {close : Char}
    (closes : close = ']' ∨ close = '\x7d') (rest : List Char) :
    Ended (remaining false parts ++ close :: rest) := by
  cases parts with
  | nil => exact ended_cons (.inr (closes.imp_right .inl))
  | cons a parts => exact ended_cons (.inl rfl)

/-! ## Lists -/

theorem nextItem_remaining (first : Bool) {c : Char} {cs : List Char} (opens : Opens c)
    (parts : List (List Char)) (rest : List Char) :
    nextItem first (remaining first ((c :: cs) :: parts) ++ rest) =
      .ok (.part (c :: cs ++ (remaining false parts ++ rest))) := by
  cases first with
  | true =>
    rw [remaining, if_pos rfl, joinCommas_cons, List.append_assoc, List.cons_append, nextItem,
      skipBlank_of_opens opens]
    split
    · rename_i same
      exact absurd (List.cons.inj same).1 opens.2
    · rfl
  | false =>
    have text : remaining false ((c :: cs) :: parts) ++ rest =
        ',' :: c :: (cs ++ (remaining false parts ++ rest)) := by
      simp [remaining]
    rw [text, nextItem, skipBlank_of_opens (by decide)]
    split
    · rename_i same
      exact absurd (List.cons.inj same).1 (by decide)
    rw [if_neg Bool.false_ne_true]
    split
    · rename_i same
      rw [← (List.cons.inj same).2, skipBlank_of_opens opens]
      split
      · rename_i same
        exact absurd (List.cons.inj same).1 opens.2
      · rfl
    · rename_i other
      exact absurd rfl (other _)

namespace Codec

variable {α : Type} {codec : Codec α} {levels : Nat}

theorem readItems_remaining {depth : Nat} (enough : levels ≤ depth) {xs : List α}
    (h : ∀ x ∈ xs, codec.Restores levels x) {steps : Nat} (within : xs.length < steps)
    (first : Bool) (rest : List Char) :
    readItems (codec.read depth) steps first
      (remaining first (xs.map codec.write) ++ ']' :: rest) = .ok (xs, rest) := by
  induction xs generalizing steps first with
  | nil =>
    obtain ⟨steps, rfl⟩ : ∃ n, steps = n + 1 := ⟨steps - 1, by omega⟩
    cases first <;> rfl
  | cons x xs ih =>
    obtain ⟨steps, rfl⟩ : ∃ n, steps = n + 1 := ⟨steps - 1, by omega⟩
    have restored := h x List.mem_cons_self
    obtain ⟨c, cs, text, opens⟩ := restored.opens
    have read := restored.read depth enough _
      (ended_remaining (xs.map codec.write) (.inl rfl) rest)
    have others := ih (fun x mem => h x (List.mem_cons_of_mem _ mem))
      (Nat.lt_of_succ_lt_succ within) false
    rw [readItems, List.map_cons, text, nextItem_remaining first opens]
    dsimp only [bind, Except.bind]
    rw [← text, read]
    dsimp only
    rw [others]
    rfl

theorem Restores.list {xs : List α} (h : ∀ x ∈ xs, codec.Restores levels x) :
    codec.list.Restores (levels + 1) xs where
  opens := ⟨'[', _, rfl, by decide⟩
  read depth enough rest _ := by
    obtain ⟨depth, rfl⟩ : ∃ n, depth = n + 1 := ⟨depth - 1, by omega⟩
    have parts : ∀ part ∈ xs.map codec.write, part ≠ [] := by
      intro part mem
      obtain ⟨x, there, rfl⟩ := List.mem_map.1 mem
      obtain ⟨c, cs, text, -⟩ := (h x there).opens
      rw [text]
      exact List.cons_ne_nil c cs
    have steps : xs.length < (joinCommas (xs.map codec.write) ++ ']' :: rest).length + 1 := by
      have := length_le_joinCommas parts
      rw [List.length_map] at this
      rw [List.length_append]
      omega
    have text : codec.list.write xs ++ rest =
        '[' :: (joinCommas (xs.map codec.write) ++ ']' :: rest) := by
      simp [Codec.list]
    rw [text]
    exact readItems_remaining (Nat.le_of_succ_le_succ enough) h steps true rest

end Codec

/-! ## Entries under numbers -/

theorem nextName_remaining (first : Bool) (name : List Char) (parts : List (List Char))
    (rest : List Char) :
    nextName first (remaining first (('"' :: name) :: parts) ++ rest) =
      .ok (.part (name ++ (remaining false parts ++ rest))) := by
  cases first with
  | true =>
    rw [remaining, if_pos rfl, joinCommas_cons, List.append_assoc, List.cons_append]
    rfl
  | false =>
    have text : remaining false (('"' :: name) :: parts) ++ rest =
        ',' :: '"' :: (name ++ (remaining false parts ++ rest)) := by
      simp [remaining]
    rw [text]
    rfl

/-- Members written one after the other are read by a loop that reads each of them, in the end or
before what goes on, into its state. -/
theorem readMembers_written {σ β : Type} {member : σ → Reader σ} {put : σ → β → σ}
    {text : β → List Char} {parts : List β}
    (reads : ∀ e ∈ parts, ∀ s rest, Ended rest →
      member s (text e ++ rest) = .ok (put s e, rest))
    {steps : Nat} (within : parts.length < steps) (first : Bool) (s : σ) (rest : List Char) :
    readMembers member steps first s
      (remaining first (parts.map fun e => '"' :: text e) ++ '\x7d' :: rest) =
        .ok (parts.foldl put s, rest) := by
  induction parts generalizing steps first s with
  | nil =>
    obtain ⟨steps, rfl⟩ : ∃ n, steps = n + 1 := ⟨steps - 1, by omega⟩
    cases first <;> rfl
  | cons e parts ih =>
    obtain ⟨steps, rfl⟩ : ∃ n, steps = n + 1 := ⟨steps - 1, by omega⟩
    have read := reads e List.mem_cons_self s _
      (ended_remaining (parts.map fun e => '"' :: text e) (.inr rfl) rest)
    rw [readMembers, List.map_cons, nextName_remaining]
    show (member s _ >>= fun (p : σ × List Char) => readMembers member steps false p.1 p.2) = _
    rw [read]
    exact ih (fun e mem => reads e (List.mem_cons_of_mem _ mem)) (Nat.lt_of_succ_lt_succ within)
      false (put s e)

namespace Codec

variable {α : Type} {codec : Codec α} {bits levels : Nat}

theorem escape_of_isDigit {c : Char} (digit : c.isDigit = true) : escape c = [c] := by
  have other {d : Char} (noDigit : d.isDigit = false) : c ≠ d := by
    rintro rfl
    rw [noDigit] at digit
    cases digit
  have printed : ¬c.toNat < 0x20 := by
    have least : 48 ≤ c.val.toNat := (of_decide_eq_true (Bool.and_eq_true_iff.1 digit).1 : _ ≤ c.val)
    exact Nat.not_lt.2 (Nat.le_trans (by decide) least)
  unfold escape
  rw [if_neg (other rfl), if_neg (other rfl), if_neg (other rfl), if_neg (other rfl),
    if_neg (other rfl), if_neg (other rfl), if_neg (other rfl), if_neg printed]

theorem writeString_toDigits (n : Nat) :
    writeString (toString n).toList = '"' :: (Nat.toDigits 10 n ++ ['"']) := by
  have digits : (toString n).toList = Nat.toDigits 10 n := Nat.toList_repr
  have plain : (Nat.toDigits 10 n).flatMap escape = (Nat.toDigits 10 n).flatMap fun c => [c] :=
    List.flatMap_congr fun c mem => escape_of_isDigit (isDigit_of_mem_toDigits c mem)
  rw [writeString, digits, plain, List.flatMap_singleton', List.cons_append]

theorem readNumericName_toDigits (le : bits ≤ 64) (n : Fin (Nat.pow 2 bits)) (rest : List Char) :
    readNumericName bits (Nat.toDigits 10 n.val ++ '"' :: rest) = .ok (n, rest) := by
  have read := (restores_unsigned le n).read 0 (Nat.le_refl 0) ('"' :: rest)
    (ended_cons (.inr (.inr (.inr rfl))))
  have text : (unsigned bits).write n = Nat.toDigits 10 n.val := Nat.toList_repr
  rw [text] at read
  rcases digits : Nat.toDigits 10 n.val with _ | ⟨c, cs⟩
  · exact absurd digits Nat.toDigits_ne_nil
  have digit : c.isDigit = true := isDigit_of_mem_toDigits c (digits ▸ List.mem_cons_self)
  rw [digits, List.cons_append] at read
  rw [List.cons_append, readNumericName, if_pos (.inr digit)]
  show ((unsigned bits).read 0 (c :: (cs ++ '"' :: rest)) >>= _) = _
  rw [read]
  rfl

/-- The member that is written for an entry. -/
def writeEntry (codec : Codec α) (e : Fin (Nat.pow 2 bits) × α) : List Char :=
  writeString (toString e.1.val).toList ++ ':' :: codec.write e.2

/-- Reads an entry from behind the opening quote of its name and puts it before those found so
far. -/
def readEntry (bits : Nat) (codec : Codec α) (depth : Nat)
    (found : List (Fin (Nat.pow 2 bits) × α)) : Reader (List (Fin (Nat.pow 2 bits) × α)) :=
  fun cs => do
    let (n, rest) ← readNumericName bits cs
    let (x, rest) ← codec.read depth (← readColon rest)
    return ((n, x) :: found, rest)

theorem readEntry_writeEntry (le : bits ≤ 64) {depth : Nat} (enough : levels ≤ depth)
    {e : Fin (Nat.pow 2 bits) × α} (h : codec.Restores levels e.2)
    (found : List (Fin (Nat.pow 2 bits) × α)) {rest : List Char} (ended : Ended rest) :
    readEntry bits codec depth found
      (Nat.toDigits 10 e.1.val ++ '"' :: ':' :: (codec.write e.2 ++ rest)) =
        .ok (e :: found, rest) := by
  rw [readEntry, readNumericName_toDigits le]
  show (codec.read depth (codec.write e.2 ++ rest) >>= _) = _
  rw [h.read depth enough rest ended]
  rfl

/-- The loop puts each entry before those found so far. -/
theorem readMembers_entries (le : bits ≤ 64) {depth : Nat} (enough : levels ≤ depth)
    {entries : List (Fin (Nat.pow 2 bits) × α)} (h : ∀ e ∈ entries, codec.Restores levels e.2)
    {steps : Nat} (within : entries.length < steps) (first : Bool)
    (found : List (Fin (Nat.pow 2 bits) × α)) (rest : List Char) :
    readMembers (readEntry bits codec depth) steps first found
      (remaining first (entries.map (writeEntry codec)) ++ '\x7d' :: rest) =
        .ok (entries.reverse ++ found, rest) := by
  let text (e : Fin (Nat.pow 2 bits) × α) : List Char :=
    Nat.toDigits 10 e.1.val ++ '"' :: ':' :: codec.write e.2
  have written : entries.map (writeEntry codec) = entries.map fun e => '"' :: text e := by
    refine List.map_congr_left fun e _ => ?_
    rw [writeEntry, writeString_toDigits]
    simp [text]
  have reads : ∀ e ∈ entries, ∀ found rest, Ended rest →
      readEntry bits codec depth found (text e ++ rest) = .ok (e :: found, rest) := by
    intro e mem found rest ended
    simpa [text] using readEntry_writeEntry le enough (h e mem) found ended
  rw [written, readMembers_written reads within,
    List.foldl_flip_cons_eq_append']

theorem Restores.entries (le : bits ≤ 64) {entries : List (Fin (Nat.pow 2 bits) × α)}
    (h : ∀ e ∈ entries, codec.Restores levels e.2) :
    (codec.entries bits).Restores (levels + 1) entries where
  opens := ⟨'\x7b', _, rfl, by decide⟩
  read depth enough rest _ := by
    obtain ⟨depth, rfl⟩ : ∃ n, depth = n + 1 := ⟨depth - 1, by omega⟩
    have parts : ∀ part ∈ entries.map (writeEntry codec), part ≠ [] := by
      intro part mem
      obtain ⟨e, -, rfl⟩ := List.mem_map.1 mem
      exact List.cons_ne_nil _ _
    have steps : entries.length <
        (joinCommas (entries.map (writeEntry codec)) ++ '\x7d' :: rest).length + 1 := by
      have := length_le_joinCommas parts
      rw [List.length_map] at this
      rw [List.length_append]
      omega
    have text : (codec.entries bits).write entries ++ rest =
        '\x7b' :: (joinCommas (entries.map (writeEntry codec)) ++ '\x7d' :: rest) := by
      show '\x7b' :: joinCommas (entries.map (writeEntry codec)) ++ ['\x7d'] ++ rest = _
      simp
    have read : readMembers (readEntry bits codec depth)
        ((joinCommas (entries.map (writeEntry codec)) ++ '\x7d' :: rest).length + 1) true []
        (joinCommas (entries.map (writeEntry codec)) ++ '\x7d' :: rest) =
          .ok (entries.reverse ++ [], rest) :=
      readMembers_entries le (Nat.le_of_succ_le_succ enough) h steps true [] rest
    rw [text]
    show (readMembers (readEntry bits codec depth) _ true [] _ >>= fun found =>
      Except.ok (found.1.reverse, found.2)) = _
    rw [read]
    show Except.ok ((entries.reverse ++ []).reverse, rest) = _
    rw [List.append_nil, List.reverse_reverse]

end Codec

/-! ## Records -/

namespace Field

variable {α : Type} {codec : Codec α} {levels : Nat}

/-- The value of a field is restored: where it is left out it is what is taken where nothing is
found, and else the codec of the field restores it. -/
def Restores (levels : Nat) (field : Field α) (x : α) : Prop :=
  if field.omits x then field.inObject? = some x else field.codec.Restores levels x

theorem Restores.omittable {name : String} {o : Option α} (h : ∀ x ∈ o, codec.Restores levels x)
    (never : codec.NeverNull) : (Field.omittable name codec).Restores levels o := by
  cases o with
  | none => exact rfl
  | some x => exact Codec.Restores.option h never

theorem Restores.omittableList {name : String} {xs : List α}
    (h : ∀ x ∈ xs, codec.Restores levels x) :
    (Field.omittableList name codec).Restores (levels + 1) xs := by
  cases xs with
  | nil => exact rfl
  | cons x xs => exact Codec.Restores.list h

end Field

namespace Fields

/-- The names of fields. -/
def names : Fields τ → List String
  | nil => []
  | cons field rest => field.name :: rest.names

/-- The slots when all members that are written for a record have been read. -/
def filled : (fields : Fields τ) → τ → fields.Slots
  | nil, _ => ()
  | cons field rest, (x, xs) => (if field.omits x then none else some x, rest.filled xs)

/-- The value of each field of a record is restored. -/
def Restores (levels : Nat) : (fields : Fields τ) → τ → Prop
  | nil, _ => True
  | cons field rest, (x, xs) => field.Restores levels x ∧ rest.Restores levels xs

theorem finish_filled {levels : Nat} {fields : Fields τ} {x : τ} (h : fields.Restores levels x) :
    fields.finish (fields.filled x) = .ok x := by
  induction fields with
  | nil => rfl
  | cons field rest ih =>
    obtain ⟨x, xs⟩ := x
    have others := ih h.2
    have first := h.1
    rw [filled, finish]
    unfold Field.Restores at first
    split at first
    · rename_i omitted
      rw [if_pos omitted, Option.none_or, first, others]
      rfl
    · rename_i kept
      rw [if_neg kept, Option.some_or, others]
      rfl

theorem ne_nil_of_mem_members {fields : Fields τ} {x : τ} :
    ∀ part ∈ fields.members x, part ≠ [] := by
  induction fields with
  | nil => exact nofun
  | cons field fields ih =>
    obtain ⟨x, xs⟩ := x
    rw [members]
    split
    · exact ih
    · exact List.forall_mem_cons.2 ⟨List.cons_ne_nil _ _, ih⟩

/-- Behind its name, the value of a field whose slot is free is read into it. -/
theorem readMember_first {depth levels : Nat} {α β : Type} {field : Field α} {x : α}
    (restored : field.codec.Restores levels x) (enough : levels ≤ depth) (fields : Fields β)
    (slots : fields.Slots) {rest : List Char} (ended : Ended rest) :
    (cons field fields).readMember depth field.name (none, slots)
      (':' :: (field.codec.write x ++ rest)) = .ok ((some x, slots), rest) := by
  have read := restored.read depth enough rest ended
  have colon : readColon (':' :: (field.codec.write x ++ rest)) =
      .ok (field.codec.write x ++ rest) := rfl
  rw [readMember]
  dsimp only
  rw [if_pos rfl, if_neg (by simp), colon]
  dsimp only [bind, Except.bind]
  rw [read]
  rfl

/-- A member of another field is read by the fields behind the first. -/
theorem readMember_others {depth : Nat} {α β : Type} {field : Field α} {fields : Fields β}
    {name : String} (other : field.name ≠ name) (slot : Option α) (slots : fields.Slots)
    (cs : List Char) :
    (cons field fields).readMember depth name (slot, slots) cs = do
      let (slots, cs) ← fields.readMember depth name slots cs
      return ((slot, slots), cs) := by
  rw [readMember]
  dsimp only
  rw [if_neg other]

/-- The members of a record are read one after the other. The state `σ` of the loop holds the slots
of the fields that are still to come, and a member of one of these is read as it is there. -/
theorem readMembers_remaining {σ : Type} {depth levels : Nat} (enough : levels ≤ depth)
    {fields : Fields τ} (distinct : fields.names.Nodup) {x : τ} (h : fields.Restores levels x)
    (member : σ → Reader σ) (put : fields.Slots → σ)
    (reads : ∀ name ∈ fields.names, ∀ slots cs,
      member (put slots) (name.toList.flatMap escape ++ '"' :: cs) = do
        let (slots, cs) ← fields.readMember depth name slots cs
        return (put slots, cs))
    {steps : Nat} (within : (fields.members x).length < steps) (first : Bool) (rest : List Char) :
    readMembers member steps first (put fields.empty)
      (remaining first (fields.members x) ++ '\x7d' :: rest) =
        .ok (put (fields.filled x), rest) := by
  induction fields generalizing steps first with
  | nil =>
    obtain ⟨steps, rfl⟩ : ∃ n, steps = n + 1 := ⟨steps - 1, by omega⟩
    cases first <;> rfl
  | cons field fields ih =>
    obtain ⟨x, xs⟩ := x
    obtain ⟨new, distinct⟩ := List.nodup_cons.1 distinct
    obtain ⟨restored, others⟩ := h
    -- Whatever is in the slot of the first field, members of the others are read past it.
    have later (slot) (name : String) (mem : name ∈ fields.names) (slots : fields.Slots)
        (cs : List Char) : member (put (slot, slots)) (name.toList.flatMap escape ++ '"' :: cs) = do
          let (slots, cs) ← fields.readMember depth name slots cs
          return (put (slot, slots), cs) := by
      have other : field.name ≠ name := fun same => new (same ▸ mem)
      rw [reads name (List.mem_cons_of_mem _ mem), readMember_others other]
      rcases fields.readMember depth name slots cs with _ | ⟨slots, cs⟩ <;> rfl
    by_cases omitted : field.omits x = true
    · have members : (cons field fields).members (x, xs) = fields.members xs := by
        rw [Fields.members, if_pos omitted]
      rw [members] at within ⊢
      rw [filled, if_pos omitted]
      exact ih distinct others (fun slots => put (none, slots)) (later none) within first
    · have members : (cons field fields).members (x, xs) =
          ('"' :: (field.name.toList.flatMap escape ++ '"' :: ':' :: field.codec.write x)) ::
            fields.members xs := by
        rw [Fields.members, if_neg omitted]
        simp [writeString]
      rw [Field.Restores, if_neg omitted] at restored
      rw [members] at within ⊢
      rw [filled, if_neg omitted]
      obtain ⟨steps, rfl⟩ : ∃ n, steps = n + 1 := ⟨steps - 1, by omega⟩
      have ended := ended_remaining (fields.members xs) (.inr rfl) rest
      have read : member (put (none, fields.empty))
          (field.name.toList.flatMap escape ++ '"' :: ':' :: field.codec.write x ++
            (remaining false (fields.members xs) ++ '\x7d' :: rest)) =
          .ok (put (some x, fields.empty),
            remaining false (fields.members xs) ++ '\x7d' :: rest) := by
        rw [List.append_assoc, List.cons_append, List.cons_append,
          reads field.name List.mem_cons_self, readMember_first restored enough _ _ ended]
        rfl
      rw [readMembers, nextName_remaining]
      show (member (put (none, fields.empty)) _ >>= fun (p : σ × List Char) =>
        readMembers member steps false p.1 p.2) = _
      rw [read]
      exact ih distinct others (fun slots => put (some x, slots)) (later (some x))
        (Nat.lt_of_succ_lt_succ within) false

end Fields

theorem Codec.neverNull_record (name : String) (fields : Fields τ) :
    (Codec.record name fields).NeverNull :=
  fun _ _ same => absurd (List.cons.inj same).1 (by decide)

/-- A record whose fields have different names is restored if its values are. -/
theorem Codec.Restores.record {name : String} {fields : Fields τ} (distinct : fields.names.Nodup)
    {levels : Nat} {x : τ} (h : fields.Restores levels x) :
    (Codec.record name fields).Restores (levels + 1) x where
  opens := ⟨'\x7b', _, rfl, by decide⟩
  read depth enough rest _ := by
    obtain ⟨depth, rfl⟩ : ∃ n, depth = n + 1 := ⟨depth - 1, by omega⟩
    let member (slots : fields.Slots) : Reader fields.Slots := fun cs =>
      readString cs >>= fun (p : List Char × List Char) =>
        fields.readMember depth (String.ofList p.1) slots p.2
    have reads : ∀ name ∈ fields.names, ∀ slots cs,
        member slots (name.toList.flatMap escape ++ '"' :: cs) = do
          let (slots, cs) ← fields.readMember depth name slots cs
          return (slots, cs) := by
      intro name _ slots cs
      show (readString (name.toList.flatMap escape ++ '"' :: cs) >>=
        fun (p : List Char × List Char) =>
          fields.readMember depth (String.ofList p.1) slots p.2) = _
      rw [readString_append]
      show fields.readMember depth (String.ofList name.toList) slots cs = _
      rw [String.ofList_toList]
      exact (bind_pure _).symm
    have text : (Codec.record name fields).write x ++ rest =
        '\x7b' :: (joinCommas (fields.members x) ++ '\x7d' :: rest) := by
      simp [Codec.record]
    have parts := fields.ne_nil_of_mem_members (x := x)
    have steps : (fields.members x).length <
        (joinCommas (fields.members x) ++ '\x7d' :: rest).length + 1 := by
      have := length_le_joinCommas parts
      rw [List.length_append]
      omega
    have read : readMembers member ((joinCommas (fields.members x) ++ '\x7d' :: rest).length + 1)
        true fields.empty (joinCommas (fields.members x) ++ '\x7d' :: rest) =
          .ok (fields.filled x, rest) :=
      Fields.readMembers_remaining (Nat.le_of_succ_le_succ enough) distinct h member id reads steps
        true rest
    rw [text]
    show (do
      let (slots, rest) ← readMembers member _ true fields.empty _
      return (← fields.finish slots, rest)) = _
    rw [read]
    show (do return (← fields.finish (fields.filled x), rest)) = _
    rw [Fields.finish_filled h]
    rfl

/-- What stands for a record is restored if the fields have different names and the values in the
record are restored. -/
theorem Codec.Restores.mapRecord {α : Type} {name : String} {fields : Fields τ} {f : τ → α}
    {g : α → τ} {y : α} {levels : Nat} (names : List String) (named : fields.names = names)
    (distinct : names.Nodup) (same : f (g y) = y) (h : fields.Restores levels (g y)) :
    ((Codec.record name fields).map f g).Restores (levels + 1) y :=
  (Codec.Restores.record (named ▸ distinct) h).map same

/-- The whole text of a value that is restored is read as the value. -/
theorem Codec.Restores.ofText_toText {α : Type} {codec : Codec α} {levels : Nat} {x : α}
    (h : codec.Restores levels x) (deep : levels ≤ maxDepth) :
    codec.ofText (codec.toText x) = .ok x := by
  have read := h.read maxDepth deep [] ended_nil
  rw [List.append_nil] at read
  rw [ofText, toText, readWhole, String.toList_ofList, read]
  rfl

end Chaumian.Json
