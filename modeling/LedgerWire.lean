import LedgerWire.Account.DataValue
import LedgerWire.Account.Flags
import LedgerWire.Account.Signer
import LedgerWire.Amount
import LedgerWire.Arithmetic
import LedgerWire.Asset.Basic
import LedgerWire.Asset.Pool
import LedgerWire.Bytes
import LedgerWire.Bytes.Base32
import LedgerWire.Bytes.Base64
import LedgerWire.Bytes.Radix
import LedgerWire.Calendar.Date
import LedgerWire.Calendar.Duration
import LedgerWire.Calendar.Moment
import LedgerWire.Calendar.Zone
import LedgerWire.Catalogue.ValueType
import LedgerWire.Catalogue.WireType
import LedgerWire.Claim.Balance
import LedgerWire.Claim.Predicate
import LedgerWire.Decimal.Arithmetic
import LedgerWire.Decimal.Basic
import LedgerWire.Decimal.Text
import LedgerWire.Document
import LedgerWire.Document.Entity
import LedgerWire.Document.Fault
import LedgerWire.Document.Item
import LedgerWire.Document.Operation
import LedgerWire.Document.Result
import LedgerWire.Document.Transaction
import LedgerWire.Ed25519.Curve
import LedgerWire.Ed25519.Signing
import LedgerWire.Enumeration
import LedgerWire.Fault
import LedgerWire.Hash.Crc16
import LedgerWire.Hash.Sha2
import LedgerWire.Keys.KeyPair
import LedgerWire.Keys.MuxedAccount
import LedgerWire.Keys.PublicKey
import LedgerWire.LedgerKey
import LedgerWire.Memo
import LedgerWire.Network
import LedgerWire.Operation.Account
import LedgerWire.Operation.Basic
import LedgerWire.Operation.Builder
import LedgerWire.Operation.Claim
import LedgerWire.Operation.Field
import LedgerWire.Operation.Form
import LedgerWire.Operation.Kind
import LedgerWire.Operation.Offer
import LedgerWire.Operation.Payment
import LedgerWire.Operation.Pool
import LedgerWire.Operation.Sponsorship
import LedgerWire.Operation.Trust
import LedgerWire.PartSource
import LedgerWire.Power
import LedgerWire.Price
import LedgerWire.Proofs.Amount.Agreement
import LedgerWire.Proofs.Amount.Counting
import LedgerWire.Proofs.Amount.Exact
import LedgerWire.Proofs.Amount.Quotient
import LedgerWire.Proofs.Amount.Range
import LedgerWire.Proofs.Amount.Refusal
import LedgerWire.Proofs.Amount.Spelling
import LedgerWire.Proofs.Building.Calls
import LedgerWire.Proofs.Bytes.Base32
import LedgerWire.Proofs.Bytes.Base64
import LedgerWire.Proofs.Bytes.Bits
import LedgerWire.Proofs.Bytes.Radix
import LedgerWire.Proofs.Calendar.Moment
import LedgerWire.Proofs.Catalogue.Canonical
import LedgerWire.Proofs.Decimal.Arithmetic
import LedgerWire.Proofs.Decimal.Exact
import LedgerWire.Proofs.Decimal.Exponent
import LedgerWire.Proofs.Decimal.Grammar
import LedgerWire.Proofs.Decimal.Rounding
import LedgerWire.Proofs.Decimal.Spelling
import LedgerWire.Proofs.Decimal.Text
import LedgerWire.Proofs.Decimal.Underflow
import LedgerWire.Proofs.Decimal.Value
import LedgerWire.Proofs.Hash.Crc16
import LedgerWire.Proofs.Keys.Address
import LedgerWire.Proofs.Layout.Account
import LedgerWire.Proofs.Layout.Asset
import LedgerWire.Proofs.Layout.AssetForms
import LedgerWire.Proofs.Layout.Claim
import LedgerWire.Proofs.Layout.Exchange
import LedgerWire.Proofs.Layout.Nesting
import LedgerWire.Proofs.Layout.Operation
import LedgerWire.Proofs.Layout.Result
import LedgerWire.Proofs.Layout.Time
import LedgerWire.Proofs.Layout.Transaction
import LedgerWire.Proofs.Layout.Validity
import LedgerWire.Proofs.Layout.Writable
import LedgerWire.Proofs.Operation.Calls
import LedgerWire.Proofs.Operation.Checks
import LedgerWire.Proofs.Operation.Filling
import LedgerWire.Proofs.Operation.Lifecycle
import LedgerWire.Proofs.Operation.Writable
import LedgerWire.Proofs.Outcome
import LedgerWire.Proofs.Price.Acceptance
import LedgerWire.Proofs.Price.Bounds
import LedgerWire.Proofs.Price.Division
import LedgerWire.Proofs.Price.Expansion
import LedgerWire.Proofs.Price.Loop
import LedgerWire.Proofs.Price.LowestTerms
import LedgerWire.Proofs.Price.Nearest
import LedgerWire.Proofs.Price.Neighbour
import LedgerWire.Proofs.Price.Parsing
import LedgerWire.Proofs.Price.Pass
import LedgerWire.Proofs.Price.Passes
import LedgerWire.Proofs.Price.Reduction
import LedgerWire.Proofs.Price.Refusal
import LedgerWire.Proofs.Price.Roundoff
import LedgerWire.Proofs.Result.Encoding
import LedgerWire.Proofs.StrKey.Canonical
import LedgerWire.Proofs.StrKey.Misspelling
import LedgerWire.Proofs.Text.Ascii
import LedgerWire.Proofs.Text.DecimalDigit
import LedgerWire.Proofs.Text.Utf8
import LedgerWire.Proofs.Transaction.Accumulation
import LedgerWire.Proofs.Transaction.Building
import LedgerWire.Proofs.Transaction.Encoding
import LedgerWire.Proofs.Transaction.Sharing
import LedgerWire.Proofs.Transaction.Signing
import LedgerWire.Proofs.Transaction.Writable
import LedgerWire.Proofs.Wire.Collection
import LedgerWire.Proofs.Wire.Law
import LedgerWire.Proofs.Wire.Number
import LedgerWire.Proofs.Wire.Primitive
import LedgerWire.Proofs.Wire.Property
import LedgerWire.Proofs.Wire.Reading
import LedgerWire.Proofs.Wire.Recovery
import LedgerWire.Proofs.Wire.Schema
import LedgerWire.Proofs.Wire.Union
import LedgerWire.Proofs.Wire.Writable
import LedgerWire.Result.Code
import LedgerWire.Result.Exchange
import LedgerWire.Result.Operation
import LedgerWire.Result.Transaction
import LedgerWire.StrKey
import LedgerWire.Stroops
import LedgerWire.Text.Ascii
import LedgerWire.Text.DecimalDigit
import LedgerWire.Text.Numeral
import LedgerWire.Text.Printable
import LedgerWire.Text.Quoted
import LedgerWire.Text.Utf8
import LedgerWire.TimeBounds
import LedgerWire.Transaction.Basic
import LedgerWire.Transaction.Builder
import LedgerWire.Transaction.Store
import LedgerWire.TransactionOptions
import LedgerWire.Wire.Codec
import LedgerWire.Wire.Output
import LedgerWire.Wire.Reader
import LedgerWire.Wire.Schema
