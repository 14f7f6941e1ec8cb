import RollupWallet.Amount.Packed
import RollupWallet.Arith.Modular
import RollupWallet.Arith.Power
import RollupWallet.Bytes.Basic
import RollupWallet.Bytes.Lemmas
import RollupWallet.Client.Api
import RollupWallet.Client.Basic
import RollupWallet.Client.Http
import RollupWallet.Client.Submission
import RollupWallet.CommandLine.Command
import RollupWallet.CommandLine.Grammar
import RollupWallet.CommandLine.Run
import RollupWallet.Config
import RollupWallet.Curve.Edwards
import RollupWallet.Curve.Secp256k1
import RollupWallet.Digest
import RollupWallet.Eddsa
import RollupWallet.Error.Basic
import RollupWallet.Error.Crypto
import RollupWallet.Error.InvalidInput
import RollupWallet.Field
import RollupWallet.Field.Lemmas
import RollupWallet.Hash.Blake2b
import RollupWallet.Hash.Keccak
import RollupWallet.Hash.Mimc
import RollupWallet.Hash.Sha256
import RollupWallet.Json.Basic
import RollupWallet.Json.Codec
import RollupWallet.Json.Document
import RollupWallet.Json.Literal
import RollupWallet.Json.Number
import RollupWallet.Json.Parser
import RollupWallet.Json.Record
import RollupWallet.Json.Refused
import RollupWallet.Json.Shape
import RollupWallet.Layer1.Abi
import RollupWallet.Layer1.Address
import RollupWallet.Layer1.Contract
import RollupWallet.Layer1.Key
import RollupWallet.Layer1.Wallet
import RollupWallet.Main
import RollupWallet.Name
import RollupWallet.Proofs.Arith.Power
import RollupWallet.Proofs.Arith.Primality
import RollupWallet.Proofs.Arith.PrimeField
import RollupWallet.Proofs.Bytes
import RollupWallet.Proofs.Client.Exchange
import RollupWallet.Proofs.Client.Submission
import RollupWallet.Proofs.Curve.Compression
import RollupWallet.Proofs.Curve.Extended
import RollupWallet.Proofs.Curve.Law
import RollupWallet.Proofs.Eddsa.Correctness
import RollupWallet.Proofs.Eddsa.PublicKey
import RollupWallet.Proofs.Error
import RollupWallet.Proofs.Field.Prime
import RollupWallet.Proofs.Field.SquareRoot
import RollupWallet.Proofs.Json.Codec
import RollupWallet.Proofs.Json.Compact
import RollupWallet.Proofs.Json.Literal
import RollupWallet.Proofs.Json.Record
import RollupWallet.Proofs.Request.Wire
import RollupWallet.Proofs.Signing
import RollupWallet.Proofs.Signing.Match
import RollupWallet.Proofs.Text.Ascii
import RollupWallet.Proofs.Text.Base64
import RollupWallet.Proofs.Text.Decimal
import RollupWallet.Proofs.Text.Hex
import RollupWallet.Proofs.Text.Utf8
import RollupWallet.Proofs.Tx.Field
import RollupWallet.Proofs.Tx.Table
import RollupWallet.Proofs.Tx.Wire
import RollupWallet.Request.Basic
import RollupWallet.Request.Build
import RollupWallet.Request.Wire
import RollupWallet.Signing
import RollupWallet.Text.Base64
import RollupWallet.Text.CodeTable
import RollupWallet.Text.Composed
import RollupWallet.Text.Decimal
import RollupWallet.Text.Domain.Direction
import RollupWallet.Text.Domain.Joining
import RollupWallet.Text.Domain.Label
import RollupWallet.Text.Domain.Mapping
import RollupWallet.Text.Domain.Name
import RollupWallet.Text.Domain.Punycode
import RollupWallet.Text.FormUrl
import RollupWallet.Text.Hex
import RollupWallet.Text.Pieces
import RollupWallet.Text.Printable
import RollupWallet.Text.Quoted
import RollupWallet.Text.Url
import RollupWallet.Text.Url.Host
import RollupWallet.Text.Utf8
import RollupWallet.Tx.Context
import RollupWallet.Tx.Kind
import RollupWallet.Tx.Layout
import RollupWallet.Tx.Message
import RollupWallet.Tx.Operation
import RollupWallet.Tx.Rules
import RollupWallet.Tx.Table
import RollupWallet.Tx.Wire
import RollupWallet.Proofs.Client.Send
import RollupWallet.Proofs.Client.Account
import RollupWallet.Proofs.Client.Match
import RollupWallet.Proofs.Client.Receiver
import RollupWallet.Proofs.Curve.Prime
import RollupWallet.Proofs.Curve.Order
import RollupWallet.Proofs.Curve.Encoding
import RollupWallet.Proofs.Eddsa.Uniqueness
import RollupWallet.Proofs.Hash.Mimc
import RollupWallet.Proofs.Tx.NewKey
import RollupWallet.Proofs.Tx.Text
import RollupWallet.Proofs.Amount.Packed
import RollupWallet.Proofs.Tx.Hashable
import RollupWallet.Proofs.Tx.Allowed
import RollupWallet.Proofs.Tx.OfferTerms
import RollupWallet.Proofs.Tx.SignBody
import RollupWallet.Proofs.Curve.Secp256k1.Group
import RollupWallet.Proofs.Curve.Secp256k1.Generator
import RollupWallet.Proofs.Tx.Message
import RollupWallet.Proofs.Hash.Keccak
import RollupWallet.Proofs.Hash.Sha256
import RollupWallet.Proofs.Layer1.Recovery
import RollupWallet.Proofs.Layer1.Separation
import RollupWallet.Proofs.Signing.External
import RollupWallet.Proofs.Signing.Consent
import RollupWallet.Proofs.Tx.OfferText
import RollupWallet.Proofs.Tx.KindsApart
import RollupWallet.Proofs.Name
import RollupWallet.Proofs.Request.DerivedHash
import RollupWallet.Proofs.Request.Settled
import RollupWallet.Proofs.Amount.Bits
import RollupWallet.Proofs.Client.Envelope
import RollupWallet.Proofs.Request.ProtocolShare
import RollupWallet.Proofs.Curve.Decoding
import RollupWallet.Proofs.Curve.Secp256k1.Order
import RollupWallet.Proofs.Layer1.Malleability
import RollupWallet.Proofs.Client.Collection
import RollupWallet.Proofs.Hash.Permutation
import RollupWallet.Proofs.Hash.Incremental
import RollupWallet.Proofs.Amount.Liquidity
import RollupWallet.Proofs.Json.Number
import RollupWallet.Proofs.Tx.SignatureText
import RollupWallet.Proofs.CommandLine.Amount
import RollupWallet.Proofs.Layer1.Abi
import RollupWallet.Proofs.Layer1.Calldata
import RollupWallet.Proofs.Json.Grammar
import RollupWallet.Proofs.Json.Layout
import RollupWallet.Proofs.Json.Quotes
import RollupWallet.Proofs.Json.WordArray
import RollupWallet.Proofs.Json.MemberOrder
import RollupWallet.Proofs.Json.Rearranged
import RollupWallet.Proofs.Json.RecordLayout
import RollupWallet.Proofs.Tx.Rearranged
