import Chaumian.Amount
import Chaumian.Blind
import Chaumian.Bytes
import Chaumian.CurrencyUnit
import Chaumian.Datum
import Chaumian.Denominations
import Chaumian.Dleq
import Chaumian.Failure
import Chaumian.Hash.Hmac
import Chaumian.Hash.Sha256
import Chaumian.Json.Basic
import Chaumian.Json.Codec
import Chaumian.Json.Fault
import Chaumian.Json.Lexer
import Chaumian.Json.Record
import Chaumian.Json.Structure
import Chaumian.Json.Value
import Chaumian.Key
import Chaumian.Keyset.Basic
import Chaumian.Keyset.Id
import Chaumian.Keyset.Keys
import Chaumian.Keyset.Secret
import Chaumian.Lightning.Basic
import Chaumian.Lightning.Bech32
import Chaumian.Lightning.Field
import Chaumian.Lightning.PaymentRequest
import Chaumian.Message.Exchange
import Chaumian.Message.Info
import Chaumian.Message.Refusal
import Chaumian.Message.State
import Chaumian.Mint
import Chaumian.Mint.Node
import Chaumian.MintUrl
import Chaumian.Modular
import Chaumian.Number.Binary64
import Chaumian.Number.Digits
import Chaumian.Number.Double
import Chaumian.Number.Shortest
import Chaumian.Premint
import Chaumian.Program
import Chaumian.Proof
import Chaumian.Proofs.Acceptance
import Chaumian.Proofs.Amount
import Chaumian.Proofs.BlindSignature
import Chaumian.Proofs.Denominations
import Chaumian.Proofs.Group
import Chaumian.Proofs.Issuance
import Chaumian.Proofs.Json
import Chaumian.Proofs.Json.Value
import Chaumian.Proofs.Lifecycle
import Chaumian.Proofs.Mint.Change
import Chaumian.Proofs.Mint.Conservation
import Chaumian.Proofs.Mint.Granting
import Chaumian.Proofs.Mint.Keysets
import Chaumian.Proofs.Mint.Requests
import Chaumian.Proofs.MintUrl
import Chaumian.Proofs.MintUrl.Identity
import Chaumian.Proofs.Outcome
import Chaumian.Proofs.Proof
import Chaumian.Proofs.Refusal
import Chaumian.Proofs.Scalars
import Chaumian.Proofs.Secp256k1
import Chaumian.Proofs.Store
import Chaumian.Proofs.Text
import Chaumian.Proofs.Token
import Chaumian.Proofs.TokenText
import Chaumian.Proofs.Url
import Chaumian.Proofs.Url.Parts
import Chaumian.Proofs.Wallet.Agreement
import Chaumian.Proofs.Wallet.Atomicity
import Chaumian.Proofs.Wallet.Binding
import Chaumian.Proofs.Wallet.Calls
import Chaumian.Proofs.Wallet.Change
import Chaumian.Proofs.Wallet.Claims
import Chaumian.Proofs.Wallet.Conduct
import Chaumian.Proofs.Wallet.Consulting
import Chaumian.Proofs.Wallet.Conserving
import Chaumian.Proofs.Wallet.Exactness
import Chaumian.Proofs.Wallet.Exchange
import Chaumian.Proofs.Wallet.Exclusion
import Chaumian.Proofs.Wallet.Fresh
import Chaumian.Proofs.Wallet.Granted
import Chaumian.Proofs.Wallet.Handover
import Chaumian.Proofs.Wallet.InStep
import Chaumian.Proofs.Wallet.Interleaving
import Chaumian.Proofs.Wallet.KnownKeysets
import Chaumian.Proofs.Wallet.Ledger
import Chaumian.Proofs.Wallet.Minting
import Chaumian.Proofs.Wallet.Optimum
import Chaumian.Proofs.Wallet.Origin
import Chaumian.Proofs.Wallet.OwnMint
import Chaumian.Proofs.Wallet.Payment
import Chaumian.Proofs.Wallet.Progress
import Chaumian.Proofs.Wallet.Published
import Chaumian.Proofs.Wallet.Reconciliation
import Chaumian.Proofs.Wallet.Registry
import Chaumian.Proofs.Wallet.ReturnedKeysets
import Chaumian.Proofs.Wallet.Run
import Chaumian.Proofs.Wallet.SafeSelection
import Chaumian.Proofs.Wallet.Selection
import Chaumian.Proofs.Wallet.Sending
import Chaumian.Proofs.Wallet.Session
import Chaumian.Proofs.Wallet.SettingAside
import Chaumian.Proofs.Wallet.Settling
import Chaumian.Proofs.Wallet.States
import Chaumian.Proofs.Wallet.Transfer
import Chaumian.Proofs.Wire
import Chaumian.Rehearsal.Basic
import Chaumian.Rehearsal.Fault
import Chaumian.Rehearsal.Run
import Chaumian.Secp256k1.Ecdsa
import Chaumian.Secp256k1.Field
import Chaumian.Secp256k1.Group
import Chaumian.Secp256k1.HashToCurve
import Chaumian.Secret
import Chaumian.Store.Basic
import Chaumian.Store.Row
import Chaumian.Suite
import Chaumian.Text.Base64
import Chaumian.Text.BidiClass
import Chaumian.Text.Blank
import Chaumian.Text.Hex
import Chaumian.Text.Joining
import Chaumian.Text.LowerCase
import Chaumian.Text.Mark
import Chaumian.Text.Quoted
import Chaumian.Text.Ranges
import Chaumian.Text.Unprintable
import Chaumian.Text.Utf8
import Chaumian.Token
import Chaumian.Toml.Document
import Chaumian.Toml.Lexer
import Chaumian.Toml.Node
import Chaumian.Toml.Word
import Chaumian.Url.Basic
import Chaumian.Url.Domain
import Chaumian.Url.Host
import Chaumian.Url.Label
import Chaumian.Url.Mapping
import Chaumian.Url.Punycode
import Chaumian.Wallet.Basic
import Chaumian.Wallet.Builder
import Chaumian.Wallet.Command
import Chaumian.Wallet.Connection
import Chaumian.Wallet.Error
import Chaumian.Wallet.Holdings
import Chaumian.Wallet.Keysets
import Chaumian.Wallet.Melt
import Chaumian.Wallet.Mint
import Chaumian.Wallet.Operation
import Chaumian.Wallet.Receive
import Chaumian.Wallet.Request
import Chaumian.Wallet.Selection
import Chaumian.Wallet.Send
import Chaumian.Wallet.Settings
import Chaumian.Wallet.Sources
import Chaumian.Wallet.Split
import Chaumian.Wallet.Task
