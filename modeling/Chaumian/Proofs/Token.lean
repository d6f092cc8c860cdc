import Chaumian.Proofs.Group
import Chaumian.Proofs.Json
import Chaumian.Proofs.MintUrl
import Chaumian.Proofs.Text
import Chaumian.Token

/-!
# Tokens are restored from their JSON

What a token is made of is restored from its JSON: keys where the short encoding of a point is
decoded as the point (`Suite.Encodes`), identifiers of keysets, secrets, amounts, proofs of equality
and the URLs of mints. So is a token.
-/

namespace Chaumian

open Json (Codec)

/-! ## Keys -/

namespace Bytes

theorem toNat_append_singleton (bytes : Bytes) (b : UInt8) :
    toNat (bytes ++ [b]) = toNat bytes * 256 + b.toNat := by
  rw [toNat, List.foldl_append]
  rfl

/-- A number that fits a width is spelled by the bytes of that width. -/
theorem toNat_ofNat {width n : Nat} (fits : n < 256 ^ width) : toNat (ofNat width n) = n := by
  induction width generalizing n with
  | zero =>
    rw [Nat.pow_zero, Nat.lt_one_iff] at fits
    rw [fits]
    rfl
  | succ width ih =>
    have upper : n / 256 < 256 ^ width := Nat.div_lt_of_lt_mul (by rwa [Nat.pow_succ'] at fits)
    rw [ofNat, toNat_append_singleton, ih upper, UInt8.toNat_ofNat']
    exact Nat.div_add_mod' n 256

end Bytes

theorem Scalar.toNat_toBytes {order : Nat} (order_le : order ≤ Nat.pow 2 256) (k : Scalar order) :
    k.toBytes.toNat = k.val :=
  Bytes.toNat_ofNat (Nat.lt_of_lt_of_le k.lt (order_le.trans (by decide)))

/-- The short encoding of a point has the size of a public key and is decoded as the point. -/
structure Suite.Encodes (S : Suite) : Prop where
  length : ∀ p, (S.compress p).length = Key.publicSize
  decompress : ∀ p, S.decompress? (S.compress p) = some p

variable {S : Suite}

theorem Suite.encodes_recoded {compress : S.Point → Bytes} {decompress? : Bytes → Option S.Point}
    {challenge : List S.Point → Nat} (length : ∀ p, (compress p).length = Key.publicSize)
    (decompress : ∀ p, decompress? (compress p) = some p) :
    (S.recoded compress decompress? challenge).Encodes :=
  ⟨length, decompress⟩

namespace Key

theorem publicOfText_publicText (encodes : S.Encodes) (p : S.Point) :
    publicOfText S (publicText S p) = .ok p := by
  rw [publicOfText, publicText, Hex.utf8ByteSize_encode, encodes.length, if_neg (not_not.2 rfl),
    Hex.decode_encode]
  dsimp only
  rw [encodes.decompress]
  rfl

theorem secretOfText_secretText (k : S.Scalar) : secretOfText S (secretText S k) = .ok k := by
  have number : k.toBytes.toNat = k.val := k.toNat_toBytes S.order_le
  have length : k.toBytes.length = 32 := Bytes.length_ofNat 32 k.val
  rw [secretOfText, secretText, Hex.decode_encode]
  dsimp only
  rw [secretOfBytes, if_pos length, number, Scalar.ofNat?_val]
  rfl

theorem restores_publicCodec (encodes : S.Encodes) (p : S.Point) :
    (publicCodec S).Restores 0 p :=
  .refine (Codec.restores_stringAs _ _) (mapError_eq_ok.2 (publicOfText_publicText encodes p))

theorem restores_secretCodec (k : S.Scalar) : (secretCodec S).Restores 0 k :=
  .refine (Codec.restores_stringAs _ _) (mapError_eq_ok.2 (secretOfText_secretText k))

end Key

/-! ## Identifiers of keysets -/

namespace Base64

theorem length_cut (bytes : Bytes) : (cut bytes).length = (bytes.length * 4 + 2) / 3 := by
  induction bytes using cut.induct with
  | case1 => rfl
  | case2 a => simp [cut]
  | case3 a b => simp [cut]
  | case4 a b c rest ih =>
    have text : (cut (a :: b :: c :: rest)).length = (cut rest).length + 4 := rfl
    rw [text, ih, List.length_cons, List.length_cons, List.length_cons]
    omega

/-- A text that is decoded has nothing in it but symbols and padding. -/
theorem value?_of_decode {alphabet : Alphabet} {padding : Padding} {text bytes : Bytes}
    (h : decode alphabet padding text = .ok bytes) :
    ∀ b ∈ text, (value? alphabet b).isSome ∨ b = pad := by
  unfold decode at h
  split at h
  · dsimp only at h
    split at h <;> cases h
  obtain ⟨_, read, -⟩ := bind_eq_ok.1 h
  obtain ⟨rest, whole⟩ := List.takeWhile_prefix (l := text) fun b => (value? alphabet b).isSome
  have known : ∀ b ∈ text.takeWhile fun b => (value? alphabet b).isSome,
      (value? alphabet b).isSome := fun b mem =>
    List.mem_takeWhile_imp (p := fun b => (value? alphabet b).isSome) mem
  unfold split at read
  dsimp only at read
  generalize text.takeWhile (fun b => (value? alphabet b).isSome) = body at whole known read
  subst whole
  rw [List.drop_left] at read
  -- From the first byte that is no symbol, all that is read is padding.
  intro b mem
  rcases List.mem_append.1 mem with mem | mem
  · exact .inl (known b mem)
  split at read
  · cases mem
  split at read
  · rename_i padding
    exact .inr (eq_of_beq (List.all_eq_true.1 padding.1 b mem))
  · cases read

/-- Where the alphabets agree on all symbols of a text, it is the same text in both. Where they do
not, the text in one of them is not read in the other. -/
theorem decode_urlSafe {bytes decoded : Bytes} {padding : Padding}
    (h : decode .urlSafe padding (encode .standard bytes) = .ok decoded) : decoded = bytes := by
  have common : ∀ v ∈ cut bytes, v < 62 := by
    intro v mem
    have small := lt_of_mem_cut bytes v mem
    have there : symbol .standard v ∈ encode .standard bytes := by
      rw [encode_eq]
      exact List.mem_append_left _ (List.mem_map_of_mem mem)
    rcases value?_of_decode h _ there with known | padded
    · rw [value?_urlSafe_symbol small] at known
      by_contra large
      rw [if_neg large] at known
      exact absurd known (by decide)
    · have value := value?_symbol .standard small
      rw [padded, value?_pad] at value
      cases value
  have same : encode .standard bytes = encode .urlSafe bytes := by
    rw [encode_eq, encode_eq]
    congr 1
    refine List.map_congr_left fun v mem => ?_
    have agreed := common v mem
    unfold symbol
    split_ifs <;> rfl
  rw [same, decode_encode] at h
  exact (Except.ok.inj h).symm

end Base64

namespace KeysetId

theorem ofText_toText (id : KeysetId) : ofText id.toText = .ok id := by
  have symbols : Bytes.ofText id.toText = Base64.encode .standard id.bytes :=
    Bytes.ofText_ascii Base64.toNat_of_mem_encode
  have length : (Base64.encode .standard id.bytes).length = textLength := by
    rw [Base64.encode_eq, List.length_append, List.length_map, List.length_replicate,
      Base64.length_cut, id.length_bytes]
    rfl
  unfold ofText
  dsimp only
  rw [symbols, if_neg (not_not.2 length)]
  have known : ofBytes? id.bytes = some id := dif_pos id.length_bytes
  -- The alphabet that is safe in URLs is tried first.
  rcases other : Base64.decode .urlSafe .required (Base64.encode .standard id.bytes) with _ | bytes
  · dsimp only
    rw [Base64.decode_encode]
    dsimp only
    rw [known]
    rfl
  · dsimp only
    rw [Base64.decode_urlSafe other, known]
    rfl

theorem restores_codec (id : KeysetId) : codec.Restores 0 id :=
  .refine (Codec.restores_stringAs _ _) (mapError_eq_ok.2 (ofText_toText id))

end KeysetId

/-! ## Proofs -/

theorem Amount.restores_codec (a : Amount) : codec.Restores 0 a :=
  .map (Codec.restores_unsigned (Nat.le_refl 64) a.toFin) rfl

theorem Secret.restores_codec (s : Secret) : codec.Restores 0 s :=
  .map (Codec.restores_stringAs _ _) rfl

theorem MintUrl.restores_codec (url : MintUrl) : codec.Restores 0 url :=
  .refine (Codec.restores_stringAs _ _) (mapError_eq_ok.2 (ofText_text url))

theorem ProofDleq.restores_codec (d : ProofDleq S) : (codec S).Restores 1 d :=
  .mapRecord ["e", "s", "r"] rfl (by decide) rfl
    ⟨Key.restores_secretCodec d.e, Key.restores_secretCodec d.s, Key.restores_secretCodec d.r,
      trivial⟩

theorem ProofDleq.neverNull_codec : (codec S).NeverNull := (Codec.neverNull_record _ _).map _ _

theorem Proof.restores_codec (encodes : S.Encodes) (p : Proof S) : (codec S).Restores 2 p :=
  have le : 0 ≤ 1 := Nat.zero_le 1
  .mapRecord ["amount", "id", "secret", "C", "dleq"] rfl (by decide) rfl
    ⟨(Amount.restores_codec p.amount).of_le le, (KeysetId.restores_codec p.keysetId).of_le le,
      (Secret.restores_codec p.secret).of_le le,
      (Key.restores_publicCodec encodes p.signature).of_le le,
      .omittable (fun d _ => ProofDleq.restores_codec d) ProofDleq.neverNull_codec, trivial⟩

/-! ## Tokens -/

theorem TokenEntry.restores_codec (encodes : S.Encodes) (e : TokenEntry S) :
    (codec S).Restores 4 e :=
  .mapRecord ["mint", "proofs"] rfl (by decide) rfl
    ⟨(MintUrl.restores_codec e.mint).of_le (Nat.zero_le 3),
      .list fun p _ => Proof.restores_codec encodes p, trivial⟩

theorem Token.restores_codec (encodes : S.Encodes) (t : Token S) : (codec S).Restores 6 t :=
  .mapRecord ["token", "memo"] rfl (by decide) rfl
    ⟨.list fun e _ => TokenEntry.restores_codec encodes e,
      .omittable (fun memo _ => (Codec.restores_stringAs _ memo).of_le (Nat.zero_le 5))
        (Codec.neverNull_stringAs _), trivial⟩

end Chaumian
