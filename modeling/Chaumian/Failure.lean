import Chaumian.Message.State
import Chaumian.Wallet.Error

/-!
The kinds of errors: an error is of a kind that has a path of names, from the part it came about in
to its cause, and it is told in words. A text that is not well-formed JSON, or not the JSON it should
be, is always of the same two kinds, wherever it was read.
-/

namespace Chaumian

/-- A type of errors. -/
class Failure (ε : Type) where
  /-- The names of an error's kind, the outermost first. -/
  kind : ε → List String
  /-- The wording of an error. -/
  message : ε → String

open Failure (kind)

instance : Failure CurveError where
  kind
    | .malformedPoint => ["Secp256k1", "InvalidPublicKey"]
    | .malformedScalar => ["Secp256k1", "InvalidSecretKey"]
    | .identitySum => ["Secp256k1", "InvalidPublicKeySum"]
    | .identityMultiple => ["Secp256k1", "InvalidTweak"]
  message := CurveError.message

instance : Failure Hex.Error where
  kind
    | .invalidDigit => ["InvalidChar", "InvalidCharError"]
    | .oddLength => ["OddLengthString", "OddLengthStringError"]
  message := Hex.Error.message

instance : Failure Base64.Error where
  kind
    | .invalidByte .. => ["InvalidByte"]
    | .invalidLength => ["InvalidLength"]
    | .invalidLastSymbol .. => ["InvalidLastSymbol"]
    | .invalidPadding => ["InvalidPadding"]
  message := Base64.Error.message

instance : Failure Json.Fault where
  kind
    | .malformed => ["JsonSyntax"]
    | _ => ["JsonData"]
  message := Json.Fault.message

instance : Failure Amount.Error where
  kind
    | .overflow => ["Amount", "AmountOverflow"]
    | .tooLarge => ["Amount", "AmountTooLarge"]
    | .wrongSplit => ["Amount", "DenominationMismatch"]
    | .unsupported _ => ["Amount", "UnsupportedDenomination"]
    | .invalid _ => ["Amount", "InvalidAmount"]
  message := Amount.Error.message

instance : Failure Blind.Error where
  kind
    | .notVerified => ["DHKE", "TokenNotVerified"]
    | .noPoint => ["DHKE", "NoValidPoint"]
    | .unknownAmount _ => ["DHKE", "UnknownDenomination"]
    | .lengthMismatch => ["DHKE", "LengthMismatch"]
    | .curve cause => "DHKE" :: kind cause
  message := Blind.Error.message

instance : Failure Key.Error where
  kind
    | .curve cause => "NUT01" :: kind cause
    | .wrongSize .. => ["NUT01", "InvalidPublicKeySize"]
  message := Key.Error.message

instance : Failure KeysetId.Error where
  kind
    | .base64 cause => "NUT02" :: "Base64" :: kind cause
    | .wrongLength => ["NUT02", "Length"]
  message := KeysetId.Error.message

instance : Failure Dleq.Error where
  kind
    | .missing => ["NUT12", "MissingDleqProof"]
    | .invalid => ["NUT12", "InvalidDleqProof"]
    | .blind cause => "NUT12" :: kind cause
    | .key cause => "NUT12" :: kind cause
    | .curve cause => "NUT12" :: kind cause
  message := Dleq.Error.message

instance : Failure Secret.Error where
  kind _ := ["Secret", "Empty"]
  message := Secret.Error.message

instance : Failure MintState.Error where
  kind _ := ["UnknownState"]
  message := MintState.Error.message

instance : Failure MintUrl.Error where
  kind
    | .url .emptyHost => ["Url", "Url", "EmptyHost"]
    | .url .invalidDomain => ["Url", "Url", "IdnaError"]
    | .url .invalidPort => ["Url", "Url", "InvalidPort"]
    | .url .invalidIpv4 => ["Url", "Url", "InvalidIpv4Address"]
    | .url .invalidIpv6 => ["Url", "Url", "InvalidIpv6Address"]
    | .url .invalidHostCharacter => ["Url", "Url", "InvalidDomainCharacter"]
    | .url .noScheme => ["Url", "Url", "RelativeUrlWithoutBase"]
    | .shape => ["Url", "InvalidUrl"]
  message := MintUrl.Error.message

instance : Failure Token.Error where
  kind
    | .noProofs => ["NUT00", "ProofsRequired"]
    | .unsupported => ["NUT00", "UnsupportedToken"]
    | .unit _ => ["NUT00", "UnsupportedUnit"]
    | .signatureCount .. => ["NUT00", "SignatureCountMismatch"]
    | .utf8 _ => ["NUT00", "Utf8ParseError"]
    | .base64 cause => "NUT00" :: "Base64Error" :: kind cause
    | .json cause => kind cause
    | _ => ["NUT00"]
  message := Token.Error.message

instance : Failure Chaumian.Error where
  kind
    | .amount cause => kind cause
    | .blind cause => kind cause
    | .token cause => kind cause
    | .key cause => kind cause
    | .keysetId cause => kind cause
    | .dleq cause => kind cause
    | .secret cause => kind cause
    | .url cause => kind cause
  message := Chaumian.Error.message

instance : Failure Refusal where
  kind _ := ["ErrorResponse"]
  message := Refusal.detail

variable {S : Suite}

instance : Failure (Store.Error S) where
  kind
    | .unavailable _ => ["Database"]
    | .invalidKeyset => ["InvalidKeysetId"]
    | .notUnspent _ => ["ProofNotUnspent"]
    | .alreadySpent => ["AttemptUpdateSpentProof"]
  message := Store.Error.message

instance : Failure (Wallet.Error S) where
  kind
    | .invalidAmount => ["InvalidAmount"]
    | .amountTooLarge => ["AmountTooLarge"]
    | .wrongSplit => ["DenominationMismatch"]
    | .unsupported _ => ["UnsupportedDenomination"]
    | .doubleSpend _ => ["DoubleSpend"]
    | .pendingProofs _ => ["PendingProofs"]
    | .insufficientBalance => ["InsufficientBalance"]
    | .keysetNotFound => ["KeysetNotFound"]
    | .unknownQuote => ["QuoteUnknown"]
    | .wrongMint _ => ["IncorrectMint"]
    | .paymentFailed => ["PaymentFailed"]
    | .dleqNotVerified => ["CouldNotVerifyDleq"]
    | .operationInFlight => ["OperationInFlight"]
    | .malformedResponse _ => ["MalformedResponse"]
    | .network _ => ["Network"]
    | .mint _ => ["Mint"]
    | .cash (.token (.json cause)) => kind cause
    | .cash cause => "Ecash" :: kind cause
    | .token cause => kind cause
    | .blind cause => kind cause
    | .url cause => kind cause
    | .store cause => "Database" :: kind cause
    | .custom _ => ["Custom"]
    | .invoice => ["Invoice"]
  message := Wallet.Error.message

end Chaumian
