import Chaumian.Message.Refusal
import Chaumian.Store.Basic
import Chaumian.Token

/-!
What a wallet can fail with, and how the errors of its parts become its own.
-/

namespace Chaumian

/-- What can go wrong anywhere but in a store or a mint. -/
inductive Error where
  | amount (cause : Amount.Error)
  | blind (cause : Blind.Error)
  | token (cause : Token.Error)
  | key (cause : Key.Error)
  | keysetId (cause : KeysetId.Error)
  | dleq (cause : Dleq.Error)
  | secret (cause : Secret.Error)
  | url (cause : MintUrl.Error)
  deriving DecidableEq

/-- The wording of an error. -/
def Error.message : Error → String
  | .amount cause => cause.message
  | .blind cause => cause.message
  | .token cause => cause.message
  | .key cause => cause.message
  | .keysetId cause => cause.message
  | .dleq cause => cause.message
  | .secret cause => cause.message
  | .url cause => cause.message

namespace Wallet

/-- What a wallet can fail with. -/
inductive Error (S : Suite) where
  /-- Nothing was asked for. -/
  | invalidAmount
  | amountTooLarge
  | wrongSplit
  | unsupported (bound : Nat)
  /-- The mint has taken a proof before. -/
  | doubleSpend (detail : String)
  /-- A proof is part of an operation that has not ended. -/
  | pendingProofs (detail : String)
  | insufficientBalance
  | keysetNotFound
  | unknownQuote
  /-- A token is of another mint. -/
  | wrongMint (text : String)
  | paymentFailed
  /-- A proof's own proof of equality does not hold. -/
  | dleqNotVerified
  /-- The wallet is at work. -/
  | operationInFlight
  /-- The mint's answer does not fit what was asked. -/
  | malformedResponse (detail : String)
  | network (detail : String)
  | mint (refusal : Refusal)
  | cash (cause : Chaumian.Error)
  | token (cause : Token.Error)
  | blind (cause : Blind.Error)
  | url (cause : MintUrl.Error)
  | store (cause : Store.Error S)
  | custom (detail : String)
  /-- A payment request cannot be read. -/
  | invoice
  deriving DecidableEq

namespace Error

variable {S : Suite}

/-- The wording of an error; of an invoice that cannot be read there is none. -/
def message : Error S → String
  | invalidAmount => "amount must be positive."
  | amountTooLarge => "amount too large."
  | wrongSplit => "split must sum to amount"
  | unsupported bound => s!"Can only mint amounts with 2^n up to {bound}."
  | doubleSpend detail => s!"Mint Error: {detail}"
  | pendingProofs detail => s!"Mint Error: {detail}"
  | insufficientBalance => "balance too low."
  | keysetNotFound => "Keyset Not Found"
  | unknownQuote => "Quote Unknown"
  | wrongMint text => s!"Token is from mint `{text}`"
  | paymentFailed => "Lightning payment failed"
  | dleqNotVerified => "Could not verify Dleq"
  | operationInFlight => "Operation in flight"
  | malformedResponse detail => s!"Malformed mint response: {detail}"
  | network detail => s!"Network Error: {detail}"
  | mint refusal => s!"Mint Error: {refusal.detail}"
  | cash cause => cause.message
  | token cause => cause.message
  | blind cause => cause.message
  | url cause => cause.message
  | store cause => cause.message
  | custom detail => s!"`{detail}`"
  | invoice => ""

/-- What an error about amounts is to a wallet. -/
def ofAmount : Amount.Error → Error S
  | .overflow => amountTooLarge
  | .tooLarge => amountTooLarge
  | .wrongSplit => wrongSplit
  | .unsupported bound => unsupported bound
  | .invalid _ => invalidAmount

/-- What an error about tokens is to a wallet. -/
def ofToken : Token.Error → Error S
  | .amount cause => ofAmount cause
  | .blind cause => blind cause
  | cause => token cause

/-- What a refusal is to a wallet: some reasons are errors of their own. -/
def ofRefusal (r : Refusal) : Error S :=
  match r.code.reason? with
  | some .alreadySpent => doubleSpend r.detail
  | some .pending => pendingProofs r.detail
  | some .keysetNotFound => keysetNotFound
  | _ => mint r

end Error

end Wallet

end Chaumian
