import Chaumian.Proofs.Outcome
import Chaumian.Text.Base64
import Chaumian.Text.Blank
import Chaumian.Text.Hex
import Chaumian.Text.Utf8

/-!
# Bytes and texts

What is written as hexadecimal, as base64 or as UTF-8 is read as what it was written for. Of base64
that holds with the padding of the last group and also when some of it is missing, where that is let
pass.
-/

namespace Chaumian

/-! ## Texts as bytes -/

namespace Bytes

theorem toList_toByteArray (bytes : Bytes) : bytes.toByteArray.toList = bytes := by
  -- The loop goes on at an index, with all the bytes before it in reverse.
  have general (i : Nat) (before : List UInt8) :
      ByteArray.toList.loop bytes.toByteArray i before = before.reverse ++ bytes.drop i := by
    induction left : bytes.length - i generalizing i before with
    | zero =>
      rw [ByteArray.toList.loop, if_neg (by rw [List.size_toByteArray]; omega),
        List.drop_eq_nil_of_le (by omega), List.append_nil]
    | succ n ih =>
      have here : i < bytes.length := by omega
      rw [ByteArray.toList.loop, if_pos (by rw [List.size_toByteArray]; exact here),
        ih _ _ (by omega), List.drop_eq_getElem_cons here, List.reverse_cons, List.append_assoc]
      have byte : bytes.toByteArray.get! i = bytes[i] := by
        rw [ByteArray.get!, List.data_toByteArray]
        simp [here]
      rw [byte]
      rfl
  exact general 0 []

theorem ofText_ofList (cs : List Char) :
    ofText (String.ofList cs) = cs.flatMap String.utf8EncodeChar := by
  rw [ofText, String.toUTF8_eq_toByteArray, String.toByteArray_ofList, List.utf8Encode,
    toList_toByteArray]

theorem length_ofText (text : String) : (ofText text).length = text.utf8ByteSize := by
  rw [ofText, String.toUTF8_eq_toByteArray]
  obtain ⟨bytes, same⟩ : ∃ bytes : Bytes, bytes.toByteArray = text.toByteArray :=
    ⟨_, String.utf8Encode_toList⟩
  rw [← same, toList_toByteArray, ← List.size_toByteArray, same]
  rfl

/-- Bytes below 128 are the bytes of the text of the characters with their numbers. -/
theorem ofText_ascii {bytes : Bytes} (ascii : ∀ b ∈ bytes, b.toNat < 128) :
    ofText (String.ofList (bytes.map fun b => Char.ofNat b.toNat)) = bytes := by
  rw [ofText_ofList, List.flatMap_map]
  induction bytes with
  | nil => rfl
  | cons b rest ih =>
    have small := ascii b List.mem_cons_self
    have single : String.utf8EncodeChar (Char.ofNat b.toNat) = [b] := by
      have number : (Char.ofNat b.toNat).val.toNat = b.toNat :=
        (Char.toNat_ofNat b.toNat).trans (if_pos (.inl (by omega)))
      rw [String.utf8EncodeChar, number, if_pos (by omega), UInt8.ofNat_toNat]
    rw [List.flatMap_cons, single, ih fun b mem => ascii b (List.mem_cons_of_mem _ mem)]
    rfl

end Bytes

/-! ## Blanks -/

/-- The blanks around a text without blanks are cut off. -/
theorem Text.trim_surrounded {before body after : List Char} (blankBefore : ∀ c ∈ before, isBlank c)
    (blankAfter : ∀ c ∈ after, isBlank c) (visible : ∀ c ∈ body, isBlank c = false) :
    trim (before ++ body ++ after) = body := by
  have kept {cs : List Char} (visible : ∀ c ∈ cs, isBlank c = false) :
      cs.dropWhile isBlank = cs := by
    cases cs with
    | nil => rfl
    | cons c cs =>
      refine List.dropWhile_cons_of_neg ?_
      rw [visible c List.mem_cons_self]
      exact Bool.false_ne_true
  have reversed : (body.reverse.dropWhile isBlank).reverse = body := by
    rw [kept fun c mem => visible c (List.mem_reverse.1 mem), List.reverse_reverse]
  have cutAfter : ((body ++ after).reverse.dropWhile isBlank).reverse = body := by
    rw [List.reverse_append, List.dropWhile_append_of_pos fun c mem =>
      blankAfter c (List.mem_reverse.1 mem), reversed]
  rw [trim, List.append_assoc, List.dropWhile_append_of_pos blankBefore]
  -- Where there is no body, all that follows is cut off from the front already.
  cases body with
  | nil =>
    have none : after.dropWhile isBlank = [] := List.dropWhile_eq_nil_iff.2 blankAfter
    rw [List.nil_append, none]
    rfl
  | cons c rest =>
    have front : (c :: rest ++ after).dropWhile isBlank = c :: rest ++ after := by
      refine List.dropWhile_cons_of_neg ?_
      rw [visible c List.mem_cons_self]
      exact Bool.false_ne_true
    rw [front, cutAfter]

/-! ## Hexadecimal -/

namespace Hex

theorem value?_digit {n : Nat} (small : n < 16) : Digits.value? 16 (digit n) = some n := by
  revert n
  decide

theorem toNat_digit {n : Nat} (small : n < 16) : (digit n).toNat < 128 := by
  revert n
  decide

theorem decodeChars_encodeChars (bytes : Bytes) : decodeChars (encodeChars bytes) = .ok bytes := by
  induction bytes with
  | nil => rfl
  | cons b rest ih =>
    have below := b.toNat_lt
    have whole : 16 * (b.toNat / 16) + b.toNat % 16 = b.toNat := Nat.div_add_mod _ 16
    have text : encodeChars (b :: rest) =
        digit (b.toNat / 16) :: digit (b.toNat % 16) :: encodeChars rest := rfl
    rw [text, decodeChars, value?_digit (by omega), value?_digit (Nat.mod_lt _ (by decide)), ih]
    show Except.ok _ = _
    rw [whole, UInt8.ofNat_toNat]

/-- Each byte takes two digits, and each digit one byte. -/
theorem utf8ByteSize_encode (bytes : Bytes) : (encode bytes).utf8ByteSize = 2 * bytes.length := by
  rw [← Bytes.length_ofText, encode, Bytes.ofText_ofList, encodeChars]
  induction bytes with
  | nil => rfl
  | cons b rest ih =>
    have below := b.toNat_lt
    have single {n : Nat} (small : n < 16) : (String.utf8EncodeChar (digit n)).length = 1 := by
      have number : (digit n).val.toNat < 128 := toNat_digit small
      rw [String.utf8EncodeChar, if_pos (by omega), List.length_singleton]
    rw [List.flatMap_cons, List.flatMap_append, List.length_append, ih, List.length_cons,
      List.flatMap_cons, List.flatMap_cons, List.flatMap_nil, List.append_nil, List.length_append,
      single (by omega), single (Nat.mod_lt _ (by decide))]
    omega

theorem decode_encode (bytes : Bytes) : decode (encode bytes) = .ok bytes := by
  rw [decode, utf8ByteSize_encode, if_neg (by omega), encode, String.toList_ofList,
    decodeChars_encodeChars]

end Hex

/-! ## Base64 -/

namespace Base64

theorem value?_symbol (alphabet : Alphabet) {v : Nat} (small : v < 64) :
    value? alphabet (symbol alphabet v) = some v := by
  revert v
  cases alphabet <;> decide +kernel

/-- A symbol of the standard alphabet has the same value in the other one, if it has one there. -/
theorem value?_urlSafe_symbol {v : Nat} (small : v < 64) :
    value? .urlSafe (symbol .standard v) = if v < 62 then some v else none := by
  revert v
  decide +kernel

theorem value?_pad (alphabet : Alphabet) : value? alphabet pad = none := by
  cases alphabet <;> decide +kernel

theorem toNat_symbol (alphabet : Alphabet) {v : Nat} (small : v < 64) :
    (symbol alphabet v).toNat < 128 := by
  revert v
  cases alphabet <;> decide +kernel

theorem lt_of_mem_cut (bytes : Bytes) : ∀ v ∈ cut bytes, v < 64 := by
  induction bytes using cut.induct with
  | case1 => exact nofun
  | case2 a =>
    have := a.toNat_lt
    simp only [cut, List.forall_mem_cons, List.not_mem_nil, false_implies, implies_true, and_true]
    omega
  | case3 a b =>
    have := a.toNat_lt
    have := b.toNat_lt
    simp only [cut, List.forall_mem_cons, List.not_mem_nil, false_implies, implies_true, and_true]
    omega
  | case4 a b c rest ih =>
    have := a.toNat_lt
    have := b.toNat_lt
    have := c.toNat_lt
    rw [cut, List.forall_mem_cons, List.forall_mem_cons, List.forall_mem_cons, List.forall_mem_cons]
    exact ⟨by omega, by omega, by omega, by omega, ih⟩

/-- A number below 256 that a byte has is that of the byte. -/
theorem ofNat_eq {n : Nat} {b : UInt8} (same : n = b.toNat) : UInt8.ofNat n = b := by
  rw [same, UInt8.ofNat_toNat]

theorem join_cut (bytes : Bytes) : join (cut bytes) = bytes := by
  induction bytes using cut.induct with
  | case1 => rfl
  | case2 a => rw [cut, join, ofNat_eq (b := a) (by omega)]
  | case3 a b =>
    have := b.toNat_lt
    rw [cut, join, ofNat_eq (b := a) (by omega), ofNat_eq (b := b) (by omega)]
  | case4 a b c rest ih =>
    have := b.toNat_lt
    have := c.toNat_lt
    rw [cut, join, ih, ofNat_eq (b := a) (by omega), ofNat_eq (b := b) (by omega),
      ofNat_eq (b := c) (by omega)]

/-- No single value is left over, and the last one has no bits that no byte takes up. -/
theorem ends_cut (bytes : Bytes) : (cut bytes).length % 4 ≠ 1 ∧
    endsClean (cut bytes).length ((cut bytes).getLastD 0) = true := by
  induction bytes using cut.induct with
  | case1 => decide
  | case2 a => simp [cut, endsClean]
  | case3 a b => simp [cut, endsClean]
  | case4 a b c rest ih =>
    have text : cut (a :: b :: c :: rest) = (a.toNat / 4) :: (a.toNat % 4 * 16 + b.toNat / 16) ::
        (b.toNat % 16 * 4 + c.toNat / 64) :: (c.toNat % 64) :: cut rest := rfl
    have length : (cut (a :: b :: c :: rest)).length = (cut rest).length + 4 := by
      rw [text]
      rfl
    have same (last : Nat) : endsClean ((cut rest).length + 4) last =
        endsClean (cut rest).length last := by
      rw [endsClean, endsClean, Nat.add_mod_right]
    rw [length, same, Nat.add_mod_right]
    refine ⟨ih.1, ?_⟩
    rw [text, List.getLastD_cons, List.getLastD_cons, List.getLastD_cons, List.getLastD_cons]
    -- Where nothing follows, the last value belongs to a whole group.
    rcases others : cut rest with _ | ⟨v, more⟩
    · rfl
    · have clean := ih.2
      rw [others, List.getLastD_cons] at clean
      rw [List.getLastD_cons]
      exact clean

/-- The values of symbols followed by padding of the last group. -/
theorem split_symbols (alphabet : Alphabet) {values : List Nat} (small : ∀ v ∈ values, v < 64)
    {k : Nat} (fits : k = 0 ∨ 2 ≤ values.length % 4 ∧ values.length % 4 + k ≤ 4) :
    split alphabet (values.map (symbol alphabet) ++ List.replicate k pad) = .ok (values, k) := by
  have known : ∀ b ∈ values.map (symbol alphabet), (value? alphabet b).isSome := by
    intro b mem
    obtain ⟨v, there, rfl⟩ := List.mem_map.1 mem
    rw [value?_symbol alphabet (small v there)]
    rfl
  have body : (values.map (symbol alphabet) ++ List.replicate k pad).takeWhile
      (fun b => (value? alphabet b).isSome) = values.map (symbol alphabet) := by
    rw [List.takeWhile_append_of_pos known]
    cases k with
    | zero => rw [List.replicate_zero, List.takeWhile_nil, List.append_nil]
    | succ k =>
      rw [List.replicate_succ, List.takeWhile_cons_of_neg, List.append_nil]
      rw [value?_pad]
      exact Bool.false_ne_true
  have read : (values.map (symbol alphabet)).filterMap (value? alphabet) = values := by
    rw [List.filterMap_map]
    refine (List.filterMap_congr fun v mem => ?_).trans List.filterMap_some
    exact value?_symbol alphabet (small v mem)
  unfold split
  rw [body]
  dsimp only
  rw [read, List.drop_left]
  cases k with
  | zero => rfl
  | succ k =>
    have ⟨most, room⟩ := fits.resolve_left (Nat.succ_ne_zero k)
    have padding : (pad :: List.replicate k pad).all (· == pad) := by
      rw [← List.replicate_succ, List.all_replicate]
      simp
    rw [List.replicate_succ]
    dsimp only
    rw [List.length_replicate, List.length_map, if_pos ⟨padding, most, room⟩]

/-- The text of bytes is read, also when only some of its padding is there and that is let
pass. -/
theorem decode_symbols (alphabet : Alphabet) (bytes : Bytes) {padding : Padding} {k : Nat}
    (some : k ≤ (4 - (cut bytes).length % 4) % 4)
    (all : padding = .required → k = (4 - (cut bytes).length % 4) % 4) :
    decode alphabet padding ((cut bytes).map (symbol alphabet) ++ List.replicate k pad) =
      .ok bytes := by
  obtain ⟨ends, clean⟩ := ends_cut bytes
  have length : ((cut bytes).map (symbol alphabet) ++ List.replicate k pad).length =
      (cut bytes).length + k := by
    rw [List.length_append, List.length_map, List.length_replicate]
  have values := split_symbols alphabet (lt_of_mem_cut bytes) (k := k) (by omega)
  have filled : ¬(padding = .required ∧ ((cut bytes).length + k) % 4 ≠ 0) := by
    rintro ⟨required, short⟩
    have := all required
    omega
  unfold decode
  rw [length, if_neg (by omega), values]
  dsimp only [bind, Except.bind]
  rw [if_neg filled, if_pos clean, join_cut]
  rfl

theorem encode_eq (alphabet : Alphabet) (bytes : Bytes) :
    encode alphabet bytes = (cut bytes).map (symbol alphabet) ++
      List.replicate ((4 - (cut bytes).length % 4) % 4) pad := by
  rw [encode, List.length_map]

theorem decode_encode (alphabet : Alphabet) (padding : Padding) (bytes : Bytes) :
    decode alphabet padding (encode alphabet bytes) = .ok bytes := by
  rw [encode_eq]
  exact decode_symbols alphabet bytes (Nat.le_refl _) fun _ => rfl

theorem toNat_of_mem_encode {alphabet : Alphabet} {bytes : Bytes} :
    ∀ b ∈ encode alphabet bytes, b.toNat < 128 := by
  intro b mem
  rw [encode_eq] at mem
  rcases List.mem_append.1 mem with mem | mem
  · obtain ⟨v, there, rfl⟩ := List.mem_map.1 mem
    exact toNat_symbol alphabet (lt_of_mem_cut bytes v there)
  · rw [List.eq_of_mem_replicate mem]
    decide

end Base64

/-! ## UTF-8 -/

namespace Utf8

section

variable {a b c d : UInt8} {v index : Nat} {rest : Bytes}

/-- A byte of six bits below the tail mark. -/
theorem isTail_of {e : UInt8} {n : Nat} (same : e.toNat = n % 64 + 0x80) : isTail e = true := by
  simp only [isTail, UInt8.le_iff_toNat_le, same, UInt8.reduceToNat, decide_eq_true_eq]
  omega

theorem decodeFrom_one (first : a.toNat = v) (high : v < 0x80) :
    decodeFrom index (a :: rest) = (Char.ofNat v :: ·) <$> decodeFrom (index + 1) rest := by
  rw [map_eq_pure_bind]
  conv_lhs => unfold decodeFrom
  rw [if_pos (UInt8.lt_iff_toNat_lt.2 (by simpa [first] using high)), first]

theorem decodeFrom_two (first : a.toNat = v / 64 + 0xc0) (second : b.toNat = v % 64 + 0x80)
    (low : 0x80 ≤ v) (high : v < 0x800) : decodeFrom index (a :: b :: rest) =
      (Char.ofNat v :: ·) <$> decodeFrom (index + 2) rest := by
  have bits : a.toNat % 32 * 64 + tailBits b = v := by
    rw [tailBits]
    omega
  rw [map_eq_pure_bind]
  conv_lhs => unfold decodeFrom
  simp only [UInt8.lt_iff_toNat_lt, UInt8.le_iff_toNat_le, first, UInt8.reduceToNat]
  rw [if_neg (by omega), if_pos (by omega), if_pos (isTail_of second), ← first, bits]

theorem decodeFrom_three (first : a.toNat = v / 4096 + 0xe0) (second : b.toNat = v / 64 % 64 + 0x80)
    (third : c.toNat = v % 64 + 0x80) (low : 0x800 ≤ v) (high : v < 0x10000)
    (whole : v < 0xd800 ∨ 0xdfff < v) : decodeFrom index (a :: b :: c :: rest) =
      (Char.ofNat v :: ·) <$> decodeFrom (index + 3) rest := by
  have bits : a.toNat % 16 * 4096 + tailBits b * 64 + tailBits c = v := by
    rw [tailBits, tailBits]
    omega
  have next : isSecondOfThree a b = true := by
    simp only [isSecondOfThree, isTail, ← UInt8.toNat_inj, UInt8.le_iff_toNat_le, first, second,
      UInt8.reduceToNat]
    split_ifs <;> simp <;> omega
  rw [map_eq_pure_bind]
  conv_lhs => unfold decodeFrom
  simp only [UInt8.lt_iff_toNat_lt, UInt8.le_iff_toNat_le, first, UInt8.reduceToNat]
  rw [if_neg (by omega), if_neg (by omega), if_pos (by omega), if_neg (by simp [next]),
    if_pos (isTail_of third), ← first, bits]

theorem decodeFrom_four (first : a.toNat = v / 262144 + 0xf0)
    (second : b.toNat = v / 4096 % 64 + 0x80) (third : c.toNat = v / 64 % 64 + 0x80)
    (fourth : d.toNat = v % 64 + 0x80) (low : 0x10000 ≤ v) (high : v < 0x110000) :
    decodeFrom index (a :: b :: c :: d :: rest) =
      (Char.ofNat v :: ·) <$> decodeFrom (index + 4) rest := by
  have bits : a.toNat % 8 * 262144 + tailBits b * 4096 + tailBits c * 64 + tailBits d = v := by
    rw [tailBits, tailBits, tailBits]
    omega
  have next : isSecondOfFour a b = true := by
    simp only [isSecondOfFour, isTail, ← UInt8.toNat_inj, UInt8.le_iff_toNat_le, first, second,
      UInt8.reduceToNat]
    split_ifs <;> simp <;> omega
  rw [map_eq_pure_bind]
  conv_lhs => unfold decodeFrom
  simp only [UInt8.lt_iff_toNat_lt, UInt8.le_iff_toNat_le, first, UInt8.reduceToNat]
  rw [if_neg (by omega), if_neg (by omega), if_neg (by omega), if_pos (by omega),
    if_neg (by simp [next]), if_neg (by simp [isTail_of third]), if_pos (isTail_of fourth),
    ← first, bits]

theorem decodeFrom_utf8EncodeChar (c : Char) (index : Nat) (rest : Bytes) :
    ∃ next, decodeFrom index (String.utf8EncodeChar c ++ rest) =
      (c :: ·) <$> decodeFrom next rest := by
  have valid : c.val.toNat < 0xd800 ∨ 0xdfff < c.val.toNat ∧ c.val.toNat < 0x110000 := c.valid
  have back : Char.ofNat c.val.toNat = c := Char.ofNat_toNat c
  rw [String.utf8EncodeChar]
  generalize c.val.toNat = v at valid back
  have number {n : Nat} (small : n < 256) : (UInt8.ofNat n).toNat = n :=
    UInt8.toNat_ofNat_of_lt' small
  subst back
  split_ifs with one two three
  · exact ⟨index + 1, decodeFrom_one (number (by omega)) (by omega)⟩
  · refine ⟨index + 2, decodeFrom_two ?_ ?_ (by omega) (by omega)⟩
    · rw [number (by omega)]
      omega
    · exact number (by omega)
  · refine ⟨index + 3, decodeFrom_three ?_ ?_ ?_ (by omega) (by omega) (by omega)⟩
    · rw [number (by omega)]
      omega
    · exact number (by omega)
    · exact number (by omega)
  · refine ⟨index + 4, decodeFrom_four ?_ ?_ ?_ ?_ (by omega) (by omega)⟩
    · rw [number (by omega)]
      omega
    · exact number (by omega)
    · exact number (by omega)
    · exact number (by omega)

end

/-- The characters of a text are found again one after the other. -/
theorem decode_ofText (text : String) : decode (Bytes.ofText text) = .ok text := by
  have general (cs : List Char) (index : Nat) :
      decodeFrom index (cs.flatMap String.utf8EncodeChar) = .ok cs := by
    induction cs generalizing index with
    | nil => rfl
    | cons c rest ih =>
      obtain ⟨next, first⟩ := decodeFrom_utf8EncodeChar c index
        (rest.flatMap String.utf8EncodeChar)
      rw [List.flatMap_cons, first, ih]
      rfl
  have whole := general text.toList 0
  rw [← Bytes.ofText_ofList, String.ofList_toList] at whole
  rw [decode, whole]
  show Except.ok _ = _
  rw [String.ofList_toList]

end Utf8

end Chaumian
