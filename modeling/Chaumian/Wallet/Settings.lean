import Chaumian.CurrencyUnit
import Chaumian.Denominations
import Chaumian.Json.Record
import Chaumian.MintUrl

/-!
The settings of a wallet.
-/

namespace Chaumian

open Json (Codec)

/-- The settings of a wallet. -/
structure Settings where
  mintUrl : MintUrl
  /-- The order of the denominations while those of the mint are not known. -/
  maxOrder : Fin (Nat.pow 2 8)
  unit : CurrencyUnit
  /-- Whether proofs of equality are checked. -/
  verifyDleq : Bool
  deriving DecidableEq

namespace Settings

/-- The mint of a wallet that is told no other. -/
def defaultMintUrl : MintUrl where
  text := "http://localhost:3338"
  normal := ⟨_, MintUrl.normalize_of_toOption
    (by decide +kernel : (MintUrl.normalize "http://localhost:3338".toList).toOption = _)⟩

/-- The order that the lowest eight bits of a number spell. -/
def orderOf (n : Nat) : Fin (Nat.pow 2 8) := Fin.ofNat _ n

/-- The settings of a wallet that is told no others. -/
def default : Settings := ⟨defaultMintUrl, orderOf 64, .sat, true⟩

/-- The denominations while those of the mint are not known. -/
def denominations (settings : Settings) : Denominations := .upTo settings.maxOrder.val

/-- The fields of settings. -/
def codec : Codec Settings :=
  (Codec.record "WalletSettings"
    (.cons (.required "mint_url" MintUrl.codec) <|
      .cons (.required "max_order" (.unsigned 8)) <|
        .cons (.required "unit" CurrencyUnit.codec) <|
          .cons (.required "verify_dleq" Codec.bool) .nil)).map
    (fun (url, order, unit, verify, _) => ⟨url, order, unit, verify⟩)
    (fun s => (s.mintUrl, s.maxOrder, s.unit, s.verifyDleq, ()))

end Settings

end Chaumian
