import Chaumian.Amount
import Chaumian.Bytes

/-!
What is needed of payments over Lightning: to read payment requests and to issue them.
-/

namespace Chaumian

/-- What keeps a payment request from being issued. -/
inductive Lightning.Error where
  /-- The amount exceeds 64 bits in thousandths. -/
  | amountOutOfRange
  /-- The amount exceeds 64 bits in the smallest unit of payment requests. -/
  | amountTooLarge
  /-- The time exceeds 35 bits. -/
  | timeOutOfRange
  /-- No signature was found. -/
  | notSigned
  deriving DecidableEq, Repr

/-- The wording of an error. -/
def Lightning.Error.message : Lightning.Error → String
  | .amountOutOfRange => "amount out of range"
  | .amountTooLarge =>
    "The supplied millisatoshi amount was greater than the total bitcoin supply"
  | .timeOutOfRange =>
    "The Unix timestamp of the supplied date is less than zero or greater than 35-bits"
  | .notSigned => "signature failed"

/-- A way to read and to issue payment requests. -/
structure Lightning where
  /-- The payment hash of a request, in hexadecimal, if it can be read. -/
  paymentHash? : String → Option String
  /-- The request for an amount with a payment hash, issued at a time in seconds. -/
  issue : (amount : Amount) → (paymentHash : Bytes) → (time : Nat) →
    Except Lightning.Error String

end Chaumian
