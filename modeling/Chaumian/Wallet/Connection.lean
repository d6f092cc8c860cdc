import Chaumian.Mint
import Chaumian.Wallet.Request

/-!
A wallet and its mint in one place: the mint meets each call of the wallet at once.
-/

namespace Chaumian

variable {S : Suite}

/-- What a mint takes that is new each time: nonces for its signatures, and what is new in an
invoice. -/
structure MintSource (S : Suite) where
  nonces : Nat → S.Scalar
  issue : Mint.Issue

namespace Mint

/-- The outcome of a change of a mint, and the mint afterwards: as before, if it refused. -/
def settle (m : Mint S) : Except Refusal (α × Mint S) → Except Refusal α × Mint S
  | .ok (answer, changed) => (.ok answer, changed)
  | .error r => (.error r, m)

/-- What a mint answers to a call, and the mint afterwards. -/
def serve (lightning : Lightning) (source : MintSource S) (m : Mint S) :
    (call : Wallet.MintCall S) → Except Refusal call.Result × Mint S
  | .keys => (m.currentKeyset, m)
  | .keyset id => (m.keyset id, m)
  | .keysets => (.ok m.keysetList, m)
  | .info => (.ok m.info, m)
  | .quote request => m.settle (m.quote lightning source.issue request)
  | .mint request => m.settle (m.mint source.nonces request)
  | .split request => m.settle (m.split source.nonces request)
  | .meltQuote request => (m.meltQuote request, m)
  | .melt request => m.settle (m.melt source.nonces request)
  | .checkState request => (.ok (m.checkState request), m)

end Mint

end Chaumian
