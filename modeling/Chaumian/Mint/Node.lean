import Chaumian.Lightning.PaymentRequest
import Chaumian.Mint

/-!
The node that issues the payment requests of a mint.
-/

namespace Chaumian.Mint

/-- The key of the node, the hash of the seed. -/
def nodeKey : Scalar Secp256k1.groupOrder :=
  (Scalar.ofNat? Secp256k1.groupOrder (Bytes.toNat (Sha256.hash (Bytes.ofText seed)))).get
    (by decide +kernel)

/-- The payments of the node. -/
def lightning : Lightning := .ofNode nodeKey name

end Chaumian.Mint
