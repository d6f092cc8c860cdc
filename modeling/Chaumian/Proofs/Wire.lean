import Chaumian.Message.Exchange
import Chaumian.Message.Info
import Chaumian.Message.Refusal
import Chaumian.Message.State
import Chaumian.Proofs.Secp256k1
import Chaumian.Store.Row
import Chaumian.Wallet.Settings

/-!
# What is written is a normal form

A value that is sent or kept as JSON may be spelled in many ways: as an object or as an array, with
its fields in any order, with fields that nobody knows and without those that may be missing, with
keys in upper case, identifiers in either alphabet, URLs and units in either case. All of these are
read as the same value, and what is written for the value is one of them.

`Wire` lists the types of these values. Every value of each of them is restored from what is written
for it, so the text written for what has been read is accepted again for the same value
(`Wire.canonical`), and two texts stand for the same value exactly when the same text is written for
both.
-/

namespace Chaumian

open Json (Codec)

variable {S : Suite}

/-! ## Keys and keysets -/

namespace Keys

theorem ext {a b : Keys S} (h : a.entries = b.entries) : a = b := by
  cases a; cases b; cases h; rfl

/-- What is put in behind all other amounts comes last. -/
theorem insertEntry_of_lt {α : Type} {amount : Amount} {key : α} {entries : List (Amount × α)}
    (above : ∀ e ∈ entries, e.1 < amount) :
    insertEntry amount key entries = entries ++ [(amount, key)] := by
  induction entries with
  | nil => rfl
  | cons e rest ih =>
    have first : e.1.toNat < amount.toNat := above e List.mem_cons_self
    have notBelow : ¬amount < e.1 := fun below => absurd first (Nat.lt_asymm below)
    have notSame : amount ≠ e.1 := fun same => absurd first (same ▸ Nat.lt_irrefl _)
    rw [insertEntry, if_neg notBelow, if_neg notSame,
      ih fun e mem => above e (List.mem_cons_of_mem _ mem), List.cons_append]

/-- Entries in order are the keys of their list. -/
theorem ofList_entries (keys : Keys S) : ofList keys.entries = keys := by
  -- The entries that are still to come follow those that are there.
  have general (later : List (Amount × S.Point)) (before : Keys S)
      (sorted : (before.entries ++ later).Pairwise (·.1 < ·.1)) :
      (later.foldl (fun keys e => keys.insert e.1 e.2) before).entries =
        before.entries ++ later := by
    induction later generalizing before with
    | nil => exact (List.append_nil _).symm
    | cons e later ih =>
      have above : ∀ d ∈ before.entries, d.1 < e.1 := fun d mem =>
        (List.pairwise_append.1 sorted).2.2 d mem e List.mem_cons_self
      have entries : (before.insert e.1 e.2).entries = before.entries ++ [e] :=
        insertEntry_of_lt above
      have next := ih (before.insert e.1 e.2) (by rwa [entries, List.append_assoc])
      rwa [entries, List.append_assoc] at next
  exact ext (general keys.entries empty keys.sorted)

theorem restores_codec (encodes : S.Encodes) (keys : Keys S) : (codec S).Restores 1 keys := by
  refine .map (.entries (Nat.le_refl 64) fun e _ => Key.restores_publicCodec encodes e.2) ?_
  have same : (keys.entries.map fun e => (e.1.toFin, e.2)).map
      (fun e => (Amount.ofFin e.1, e.2)) = keys.entries := by
    rw [List.map_map]
    exact List.map_id' keys.entries
  show ofList ((keys.entries.map fun e => (e.1.toFin, e.2)).map
    fun e => (Amount.ofFin e.1, e.2)) = keys
  rw [same, ofList_entries]

end Keys

theorem Keyset.restores_codec (encodes : S.Encodes) (keyset : Keyset S) :
    (codec S).Restores 2 keyset :=
  .mapRecord ["id", "keys"] rfl (by decide) rfl
    ⟨(KeysetId.restores_codec keyset.id).of_le (Nat.zero_le 1),
      Keys.restores_codec encodes keyset.keys, trivial⟩

theorem KeysetList.restores_codec (list : KeysetList) : codec.Restores 2 list :=
  .mapRecord ["keysets"] rfl (by decide) rfl
    ⟨.list fun id _ => KeysetId.restores_codec id, trivial⟩

/-! ## Units and settings -/

namespace CurrencyUnit

theorem ofText_toText (unit : CurrencyUnit) : ofText unit.toText = .ok unit := by
  cases unit with
  | sat => rfl
  | msat => rfl
  | usd => rfl
  | eur => rfl
  | other name isOther => exact dif_pos isOther

theorem restores_codec (unit : CurrencyUnit) : codec.Restores 0 unit :=
  .refine (Codec.restores_stringAs _ _) (mapError_eq_ok.2 (ofText_toText unit))

end CurrencyUnit

theorem Settings.restores_codec (settings : Settings) : codec.Restores 1 settings :=
  .mapRecord ["mint_url", "max_order", "unit", "verify_dleq"] rfl (by decide) rfl
    ⟨MintUrl.restores_codec settings.mintUrl,
      Codec.restores_unsigned (by decide) settings.maxOrder,
      CurrencyUnit.restores_codec settings.unit, Codec.restores_bool settings.verifyDleq, trivial⟩

/-! ## Outputs and promises -/

theorem Dleq.restores_codec (d : Dleq S) : (codec S).Restores 1 d :=
  .mapRecord ["e", "s"] rfl (by decide) rfl
    ⟨Key.restores_secretCodec d.e, Key.restores_secretCodec d.s, trivial⟩

theorem Output.restores_codec (encodes : S.Encodes) (o : Output S) : (codec S).Restores 1 o :=
  .mapRecord ["amount", "id", "B_"] rfl (by decide) rfl
    ⟨Amount.restores_codec o.amount, KeysetId.restores_codec o.keysetId,
      Key.restores_publicCodec encodes o.blinded, trivial⟩

theorem Promise.restores_codec (encodes : S.Encodes) (p : Promise S) : (codec S).Restores 2 p :=
  have le : 0 ≤ 1 := Nat.zero_le 1
  .mapRecord ["amount", "id", "C_", "dleq"] rfl (by decide) rfl
    ⟨(Amount.restores_codec p.amount).of_le le, (KeysetId.restores_codec p.keysetId).of_le le,
      (Key.restores_publicCodec encodes p.signature).of_le le,
      .omittable (fun d _ => Dleq.restores_codec d) ((Codec.neverNull_record _ _).map _ _),
      trivial⟩

/-! ## Requests and the answers to them -/

theorem MintQuoteRequest.restores_codec (r : MintQuoteRequest) : codec.Restores 1 r :=
  .mapRecord ["amount"] rfl (by decide) rfl ⟨Amount.restores_codec r.amount, trivial⟩

theorem MintQuote.restores_codec (q : MintQuote) : codec.Restores 1 q :=
  .mapRecord ["id", "payment_request", "payment_hash"] rfl (by decide) rfl
    ⟨Codec.restores_stringAs _ q.id, Codec.restores_stringAs _ q.paymentRequest,
      Codec.restores_stringAs _ q.paymentHash, trivial⟩

theorem MintRequest.restores_codec (encodes : S.Encodes) (r : MintRequest S) :
    (codec S).Restores 3 r :=
  .mapRecord ["id", "outputs"] rfl (by decide) rfl
    ⟨(Codec.restores_stringAs _ r.id).of_le (Nat.zero_le 2),
      .list fun o _ => Output.restores_codec encodes o, trivial⟩

theorem MintResponse.restores_codec (encodes : S.Encodes) (r : MintResponse S) :
    (codec S).Restores 4 r :=
  .mapRecord ["signatures"] rfl (by decide) rfl
    ⟨.list fun p _ => Promise.restores_codec encodes p, trivial⟩

theorem SplitRequest.restores_codec (encodes : S.Encodes) (r : SplitRequest S) :
    (codec S).Restores 4 r :=
  .mapRecord ["proofs", "outputs"] rfl (by decide) rfl
    ⟨.list fun p _ => Proof.restores_codec encodes p,
      (Codec.Restores.list fun o _ => Output.restores_codec encodes o).of_le (by decide), trivial⟩

theorem SplitResponse.restores_codec (encodes : S.Encodes) (r : SplitResponse S) :
    (codec S).Restores 4 r :=
  .mapRecord ["signatures"] rfl (by decide) rfl
    ⟨.list fun p _ => Promise.restores_codec encodes p, trivial⟩

theorem MeltQuoteRequest.restores_codec (r : MeltQuoteRequest) : codec.Restores 1 r :=
  .mapRecord ["payment_request"] rfl (by decide) rfl
    ⟨Codec.restores_stringAs _ r.paymentRequest, trivial⟩

theorem MeltQuote.restores_codec (q : MeltQuote) : codec.Restores 1 q :=
  .mapRecord ["amount", "fee_reserve"] rfl (by decide) rfl
    ⟨Amount.restores_codec q.amount, Amount.restores_codec q.feeReserve, trivial⟩

theorem MeltRequest.restores_codec (encodes : S.Encodes) (r : MeltRequest S) :
    (codec S).Restores 4 r :=
  .mapRecord ["proofs", "payment_request", "outputs"] rfl (by decide) rfl
    ⟨.list fun p _ => Proof.restores_codec encodes p,
      (Codec.restores_stringAs _ r.paymentRequest).of_le (Nat.zero_le 3),
      (Codec.Restores.list fun o _ => Output.restores_codec encodes o).of_le (by decide), trivial⟩

theorem MeltResponse.restores_codec (encodes : S.Encodes) (r : MeltResponse S) :
    (codec S).Restores 4 r :=
  have le : 0 ≤ 3 := Nat.zero_le 3
  .mapRecord ["paid", "preimage", "change"] rfl (by decide) rfl
    ⟨(Codec.restores_bool r.paid).of_le le,
      .omittable (fun s _ => (Codec.restores_stringAs _ s).of_le le) (Codec.neverNull_stringAs _),
      .list fun p _ => Promise.restores_codec encodes p, trivial⟩

/-! ## Information, states and refusals -/

theorem Contact.restores_codec (c : Contact) : codec.Restores 1 c :=
  .mapRecord ["method", "info"] rfl (by decide) rfl
    ⟨Codec.restores_stringAs _ c.method, Codec.restores_stringAs _ c.info, trivial⟩

theorem MintInfo.restores_codec (encodes : S.Encodes) (i : MintInfo S) :
    (codec S).Restores 3 i := by
  have le : 0 ≤ 2 := Nat.zero_le 2
  have text (o : Option String) : ∀ s ∈ o, Codec.string.Restores 2 s := fun s _ =>
    (Codec.restores_stringAs _ s).of_le le
  have never : Codec.string.NeverNull := Codec.neverNull_stringAs _
  exact .mapRecord ["name", "pubkey", "version", "description", "contact", "motd"] rfl (by decide)
    rfl ⟨Codec.Restores.option (text i.name) never,
      .omittable (fun p _ => (Key.restores_publicCodec encodes p).of_le le)
        ((Codec.neverNull_stringAs _).refine _ _),
      .omittable (text i.version) never, .omittable (text i.description) never,
      .omittableList fun c _ => Contact.restores_codec c, .omittable (text i.motd) never, trivial⟩

theorem MintState.restores_codec (state : MintState) : codec.Restores 0 state := by
  refine Codec.restores_variants ?_ ?_ <;> cases state <;> decide

theorem ProofState.restores_codec (encodes : S.Encodes) (s : ProofState S) :
    (codec S).Restores 1 s :=
  .mapRecord ["Y", "state"] rfl (by decide) rfl
    ⟨Key.restores_publicCodec encodes s.y, MintState.restores_codec s.state, trivial⟩

theorem CheckStateRequest.restores_codec (encodes : S.Encodes) (r : CheckStateRequest S) :
    (codec S).Restores 2 r :=
  .mapRecord ["Ys"] rfl (by decide) rfl
    ⟨.list fun y _ => Key.restores_publicCodec encodes y, trivial⟩

theorem CheckStateResponse.restores_codec (encodes : S.Encodes) (r : CheckStateResponse S) :
    (codec S).Restores 3 r :=
  .mapRecord ["states"] rfl (by decide) rfl
    ⟨.list fun s _ => ProofState.restores_codec encodes s, trivial⟩

theorem RefusalCode.restores_codec (code : RefusalCode) : codec.Restores 0 code :=
  .map (Codec.restores_unsigned (by decide) code.value) rfl

theorem Refusal.restores_codec (r : Refusal) : codec.Restores 1 r :=
  .mapRecord ["code", "detail"] rfl (by decide) rfl
    ⟨RefusalCode.restores_codec r.code, Codec.restores_stringAs _ r.detail, trivial⟩

/-! ## What a wallet keeps -/

theorem ProofStatus.restores_codec (status : ProofStatus) : codec.Restores 0 status := by
  refine Codec.restores_variants ?_ ?_ <;> cases status <;> decide

theorem ProofRow.restores_codec (encodes : S.Encodes) (r : ProofRow S) :
    (codec S).Restores 3 r := by
  have le : 0 ≤ 2 := Nat.zero_le 2
  have text (o : Option String) : Codec.string.option.Restores 2 o :=
    .option (fun s _ => (Codec.restores_stringAs _ s).of_le le) (Codec.neverNull_stringAs _)
  exact .mapRecord ["proof", "y", "state", "mint_id", "melt_id"] rfl (by decide) rfl
    ⟨Proof.restores_codec encodes r.proof, (Key.restores_publicCodec encodes r.y).of_le le,
      (ProofStatus.restores_codec r.status).of_le le, text r.mintId, text r.meltId, trivial⟩

theorem Direction.restores_codec (direction : Direction) : codec.Restores 0 direction := by
  refine Codec.restores_variants ?_ ?_ <;> cases direction <;> decide

theorem Invoice.restores_codec (i : Invoice) : codec.Restores 1 i :=
  .mapRecord ["id", "payment_hash", "payment_request", "amount", "direction", "settled", "preimage"]
    rfl (by decide) rfl
    ⟨Codec.restores_stringAs _ i.id, Codec.restores_stringAs _ i.paymentHash,
      Codec.restores_stringAs _ i.paymentRequest, Amount.restores_codec i.amount,
      Direction.restores_codec i.direction, Codec.restores_bool i.settled,
      Codec.Restores.option (fun s _ => Codec.restores_stringAs _ s) (Codec.neverNull_stringAs _),
      trivial⟩

/-! ## All of them -/

/-- The types of what is sent or kept as JSON. -/
inductive Wire where
  | amount
  | keys
  | keyset
  | keysetList
  | keysetId
  | publicKey
  | secretKey
  | mintUrl
  | unit
  | secret
  | dleq
  | proofDleq
  | output
  | promise
  | proof
  | proofs
  | tokenEntry
  | token
  | mintQuoteRequest
  | mintQuote
  | mintRequest
  | mintResponse
  | splitRequest
  | splitResponse
  | meltQuoteRequest
  | meltQuote
  | meltRequest
  | meltResponse
  | contact
  | mintInfo
  | mintState
  | proofState
  | checkStateRequest
  | checkStateResponse
  | refusalCode
  | refusal
  | proofStatus
  | proofRow
  | direction
  | invoice
  | settings
  deriving DecidableEq, Repr

namespace Wire

/-- The values of a type. -/
def Value (S : Suite) : Wire → Type
  | amount => Amount
  | keys => Keys S
  | keyset => Keyset S
  | keysetList => KeysetList
  | keysetId => KeysetId
  | publicKey => S.Point
  | secretKey => S.Scalar
  | mintUrl => MintUrl
  | unit => CurrencyUnit
  | secret => Secret
  | dleq => Dleq S
  | proofDleq => ProofDleq S
  | output => Output S
  | promise => Promise S
  | proof => Proof S
  | proofs => List (Proof S)
  | tokenEntry => TokenEntry S
  | token => Token S
  | mintQuoteRequest => MintQuoteRequest
  | mintQuote => MintQuote
  | mintRequest => MintRequest S
  | mintResponse => MintResponse S
  | splitRequest => SplitRequest S
  | splitResponse => SplitResponse S
  | meltQuoteRequest => MeltQuoteRequest
  | meltQuote => MeltQuote
  | meltRequest => MeltRequest S
  | meltResponse => MeltResponse S
  | contact => Contact
  | mintInfo => MintInfo S
  | mintState => MintState
  | proofState => ProofState S
  | checkStateRequest => CheckStateRequest S
  | checkStateResponse => CheckStateResponse S
  | refusalCode => RefusalCode
  | refusal => Refusal
  | proofStatus => ProofStatus
  | proofRow => ProofRow S
  | direction => Direction
  | invoice => Invoice
  | settings => Settings

/-- How they are written and read. -/
def codec (S : Suite) : (wire : Wire) → Codec (wire.Value S)
  | amount => Amount.codec
  | keys => Keys.codec S
  | keyset => Keyset.codec S
  | keysetList => KeysetList.codec
  | keysetId => KeysetId.codec
  | publicKey => Key.publicCodec S
  | secretKey => Key.secretCodec S
  | mintUrl => MintUrl.codec
  | unit => CurrencyUnit.codec
  | secret => Secret.codec
  | dleq => Dleq.codec S
  | proofDleq => ProofDleq.codec S
  | output => Output.codec S
  | promise => Promise.codec S
  | proof => Proof.codec S
  | proofs => (Proof.codec S).list
  | tokenEntry => TokenEntry.codec S
  | token => Token.codec S
  | mintQuoteRequest => MintQuoteRequest.codec
  | mintQuote => MintQuote.codec
  | mintRequest => MintRequest.codec S
  | mintResponse => MintResponse.codec S
  | splitRequest => SplitRequest.codec S
  | splitResponse => SplitResponse.codec S
  | meltQuoteRequest => MeltQuoteRequest.codec
  | meltQuote => MeltQuote.codec
  | meltRequest => MeltRequest.codec S
  | meltResponse => MeltResponse.codec S
  | contact => Contact.codec
  | mintInfo => MintInfo.codec S
  | mintState => MintState.codec
  | proofState => ProofState.codec S
  | checkStateRequest => CheckStateRequest.codec S
  | checkStateResponse => CheckStateResponse.codec S
  | refusalCode => RefusalCode.codec
  | refusal => Refusal.codec
  | proofStatus => ProofStatus.codec
  | proofRow => ProofRow.codec S
  | direction => Direction.codec
  | invoice => Invoice.codec
  | settings => Settings.codec

theorem restores (encodes : S.Encodes) : (wire : Wire) → (x : wire.Value S) →
    ∃ levels ≤ 6, (wire.codec S).Restores levels x
  | amount, x => ⟨_, by decide, Amount.restores_codec x⟩
  | keys, x => ⟨_, by decide, Keys.restores_codec encodes x⟩
  | keyset, x => ⟨_, by decide, Keyset.restores_codec encodes x⟩
  | keysetList, x => ⟨_, by decide, KeysetList.restores_codec x⟩
  | keysetId, x => ⟨_, by decide, KeysetId.restores_codec x⟩
  | publicKey, x => ⟨_, by decide, Key.restores_publicCodec encodes x⟩
  | secretKey, x => ⟨_, by decide, Key.restores_secretCodec x⟩
  | mintUrl, x => ⟨_, by decide, MintUrl.restores_codec x⟩
  | unit, x => ⟨_, by decide, CurrencyUnit.restores_codec x⟩
  | secret, x => ⟨_, by decide, Secret.restores_codec x⟩
  | dleq, x => ⟨_, by decide, Dleq.restores_codec x⟩
  | proofDleq, x => ⟨_, by decide, ProofDleq.restores_codec x⟩
  | output, x => ⟨_, by decide, Output.restores_codec encodes x⟩
  | promise, x => ⟨_, by decide, Promise.restores_codec encodes x⟩
  | proof, x => ⟨_, by decide, Proof.restores_codec encodes x⟩
  | proofs, x => ⟨_, by decide, .list fun p _ => Proof.restores_codec encodes p⟩
  | tokenEntry, x => ⟨_, by decide, TokenEntry.restores_codec encodes x⟩
  | token, x => ⟨_, by decide, Token.restores_codec encodes x⟩
  | mintQuoteRequest, x => ⟨_, by decide, MintQuoteRequest.restores_codec x⟩
  | mintQuote, x => ⟨_, by decide, MintQuote.restores_codec x⟩
  | mintRequest, x => ⟨_, by decide, MintRequest.restores_codec encodes x⟩
  | mintResponse, x => ⟨_, by decide, MintResponse.restores_codec encodes x⟩
  | splitRequest, x => ⟨_, by decide, SplitRequest.restores_codec encodes x⟩
  | splitResponse, x => ⟨_, by decide, SplitResponse.restores_codec encodes x⟩
  | meltQuoteRequest, x => ⟨_, by decide, MeltQuoteRequest.restores_codec x⟩
  | meltQuote, x => ⟨_, by decide, MeltQuote.restores_codec x⟩
  | meltRequest, x => ⟨_, by decide, MeltRequest.restores_codec encodes x⟩
  | meltResponse, x => ⟨_, by decide, MeltResponse.restores_codec encodes x⟩
  | contact, x => ⟨_, by decide, Contact.restores_codec x⟩
  | mintInfo, x => ⟨_, by decide, MintInfo.restores_codec encodes x⟩
  | mintState, x => ⟨_, by decide, MintState.restores_codec x⟩
  | proofState, x => ⟨_, by decide, ProofState.restores_codec encodes x⟩
  | checkStateRequest, x => ⟨_, by decide, CheckStateRequest.restores_codec encodes x⟩
  | checkStateResponse, x => ⟨_, by decide, CheckStateResponse.restores_codec encodes x⟩
  | refusalCode, x => ⟨_, by decide, RefusalCode.restores_codec x⟩
  | refusal, x => ⟨_, by decide, Refusal.restores_codec x⟩
  | proofStatus, x => ⟨_, by decide, ProofStatus.restores_codec x⟩
  | proofRow, x => ⟨_, by decide, ProofRow.restores_codec encodes x⟩
  | direction, x => ⟨_, by decide, Direction.restores_codec x⟩
  | invoice, x => ⟨_, by decide, Invoice.restores_codec x⟩
  | settings, x => ⟨_, by decide, Settings.restores_codec x⟩

/-- Every value is read again from what is written for it. -/
theorem ofText_toText (encodes : S.Encodes) (wire : Wire) (x : wire.Value S) :
    (wire.codec S).ofText ((wire.codec S).toText x) = .ok x := by
  obtain ⟨levels, few, restored⟩ := restores encodes wire x
  exact restored.ofText_toText (few.trans (by decide))

/-- What is written for the value that a text stands for. -/
def normalize (S : Suite) (wire : Wire) (text : String) : Except Json.Fault String :=
  ((wire.codec S).ofText text).map (wire.codec S).toText

/-- What is written for the value of an accepted text is accepted, stands for the same value and is
what is written for that. The same is written for two texts exactly when they stand for the same
value. -/
theorem canonical (encodes : S.Encodes) (wire : Wire) :
    (∀ (text : String) (x : wire.Value S), (wire.codec S).ofText text = .ok x →
      ∃ normal, wire.normalize S text = .ok normal ∧ (wire.codec S).ofText normal = .ok x ∧
        wire.normalize S normal = .ok normal) ∧
    ∀ (text other : String) (x y : wire.Value S),
      (wire.codec S).ofText text = .ok x → (wire.codec S).ofText other = .ok y →
      (wire.normalize S text = wire.normalize S other ↔ x = y) := by
  have written {text : String} {x : wire.Value S} (read : (wire.codec S).ofText text = .ok x) :
      wire.normalize S text = .ok ((wire.codec S).toText x) := by
    rw [normalize, read]
    rfl
  constructor
  · intro text x read
    have again := ofText_toText encodes wire x
    exact ⟨_, written read, again, written again⟩
  · intro text other x y readText readOther
    rw [written readText, written readOther]
    constructor
    · intro same
      have again := ofText_toText encodes wire x
      rw [Except.ok.inj same, ofText_toText encodes wire y] at again
      exact (Except.ok.inj again).symm
    · rintro rfl
      rfl

end Wire

namespace Sample

/-- Settings spelled with their fields in another order, one that nobody knows, and the URL and the
unit in upper case. -/
def spelled : String :=
  "\x7b\"unit\": \"SAT\", \"max_order\": 64, \"color\": [0.5, null], \"verify_dleq\": true, " ++
    "\"mint_url\": \"HTTP://LocalHost:3338//\"\x7d"

theorem ofText_spelled : Settings.codec.ofText spelled = .ok Settings.default := by
  decide +kernel

/-- They are written in their order and as they are read. -/
theorem spelled_canonical : ∃ normal, Wire.settings.normalize Suite.secp256k1 spelled = .ok normal ∧
    Settings.codec.ofText normal = .ok Settings.default ∧
    Wire.settings.normalize Suite.secp256k1 normal = .ok normal :=
  (Wire.canonical Suite.encodes_secp256k1 .settings).1 spelled Settings.default ofText_spelled

end Sample

end Chaumian
