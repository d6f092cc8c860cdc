import Chaumian.Wallet.Basic

/-!
Putting a wallet together.
-/

namespace Chaumian.Wallet

variable {S : Suite} {κ : Type}

/-- The parts of a wallet, as far as they are given, and a way `κ` to its mint. -/
structure Builder (S : Suite) (κ : Type) where
  settings : Option Settings
  /-- The mint, in place of the one of the settings. -/
  mintUrl : Option MintUrl
  /-- The unit, in place of the one of the settings. -/
  unit : Option CurrencyUnit
  store : Option (Store S)
  connection : Option κ

namespace Builder

/-- No part given. -/
def empty : Builder S κ := ⟨none, none, none, none, none⟩

/-- The settings of the wallet. -/
def configured (b : Builder S κ) : Settings :=
  let settings := b.settings.getD .default
  { settings with
    mintUrl := b.mintUrl.getD settings.mintUrl
    unit := b.unit.getD settings.unit }

/-- The wallet and the way to its mint. It takes a store and a way to the mint. -/
def build (b : Builder S κ) : Except (Error S) (Wallet S × κ) := do
  let some store := b.store | throw (.custom "Localstore required")
  let some connection := b.connection | throw (.custom "Mint connector required")
  return (.ofStore b.configured store, connection)

end Builder

end Chaumian.Wallet
