import RollupWallet.Eddsa
import RollupWallet.Tx.Kind

/-!
# Transactions

An operation is what a transaction does; a transaction is an operation and, once it is signed, the
signature of its account. Offers are signed one by one and then appear, with their signatures, in
the match that settles them.

Indices, ids, rates and times are signed words of 64 bits, as on the wire; which of them are in
range is decided when an operation is hashed. Amounts have no bound here.
-/

namespace RollupWallet

/-- Something that is signed, with its signature once it has one. -/
structure Signed (α : Type) where
  content : α
  sig : Option Eddsa.Signature
deriving DecidableEq

/-- What every operation but an offer ends with: the fee and who collects it, the time until which
it may be executed, and the account's counter. -/
structure Envelope where
  gasAccount : Int64
  gasAsset : Int64
  gasAmount : Nat
  expiredAt : Int64
  nonce : Int64
deriving DecidableEq

/-- An amount of an asset goes to another account. -/
structure Transfer where
  fromAccount : Int64
  toAccount : Int64
  toNameHash : Bytes32
  asset : Int64
  amount : Nat
  memo : String
  callData : String
  callDataHash : Bytes32
  envelope : Envelope
deriving DecidableEq

/-- An amount of an asset goes to a layer-1 address. -/
structure Withdraw where
  fromAccount : Int64
  asset : Int64
  amount : Nat
  toAddress : Address
  envelope : Envelope
deriving DecidableEq

/-- A collection of NFTs is opened. -/
structure CreateCollection where
  account : Int64
  collection : Int64
  name : String
  introduction : String
  envelope : Envelope
deriving DecidableEq

/-- An NFT comes into being in a collection. -/
structure MintNft where
  creator : Int64
  toAccount : Int64
  toNameHash : Bytes32
  contentHash : Bytes32
  collection : Int64
  royaltyRate : Int64
  metaData : String
  mutableAttributes : String
  envelope : Envelope
deriving DecidableEq

/-- An NFT goes to another account. -/
structure TransferNft where
  fromAccount : Int64
  toAccount : Int64
  toNameHash : Bytes32
  nft : Int64
  callData : String
  callDataHash : Bytes32
  envelope : Envelope
deriving DecidableEq

/-- An NFT goes to a layer-1 address. -/
structure WithdrawNft where
  account : Int64
  nft : Int64
  toAddress : Address
  envelope : Envelope
deriving DecidableEq

/-- One side of a trade of an NFT. Rates are in hundredths of a percent. -/
structure Offer where
  side : OfferSide
  id : Int64
  account : Int64
  nft : Int64
  asset : Int64
  amount : Nat
  listedAt : Int64
  expiredAt : Int64
  treasuryRate : Int64
  channelAccount : Int64
  channelRate : Int64
  protocolRate : Int64
  protocolAmount : Nat
  royaltyRate : Int64
  /-- A layer-1 signature of the offer's text, which is carried along. -/
  layer1Sig : Option Bytes
deriving DecidableEq

/-- A buy offer is settled against a sell offer. -/
structure AtomicMatch where
  account : Int64
  buy : Signed Offer
  sell : Signed Offer
  envelope : Envelope
deriving DecidableEq

/-- An offer is taken back. -/
structure CancelOffer where
  account : Int64
  offer : Int64
  envelope : Envelope
deriving DecidableEq

/-- An account gets another public key, with the consent of its layer-1 owner. -/
structure ChangePubKey where
  account : Int64
  owner : Address
  keyX : Bytes32
  keyY : Bytes32
  envelope : Envelope
  /-- The owner's layer-1 signature of the change. -/
  layer1Sig : Option Bytes
deriving DecidableEq

/-- The attributes of an NFT are replaced. This is never signed. -/
structure UpdateNft where
  nft : Int64
  mutableAttributes : String
  account : Int64
  nonce : Int64
deriving DecidableEq

/-- What a signed transaction does. -/
inductive Operation where
  | changePubKey (op : ChangePubKey)
  | transfer (op : Transfer)
  | withdraw (op : Withdraw)
  | createCollection (op : CreateCollection)
  | mintNft (op : MintNft)
  | transferNft (op : TransferNft)
  | atomicMatch (op : AtomicMatch)
  | cancelOffer (op : CancelOffer)
  | withdrawNft (op : WithdrawNft)
  | offer (op : Offer)
deriving DecidableEq

/-- A transaction: an operation and perhaps its signature. -/
abbrev Tx := Signed Operation

namespace Operation

/-- The kind of an operation. -/
def kind : Operation → TxKind
  | changePubKey _ => .changePubKey
  | transfer _ => .transfer
  | withdraw _ => .withdraw
  | createCollection _ => .createCollection
  | mintNft _ => .mintNft
  | transferNft _ => .transferNft
  | atomicMatch _ => .atomicMatch
  | cancelOffer _ => .cancelOffer
  | withdrawNft _ => .withdrawNft
  | offer _ => .offer

theorem isSigned_kind (op : Operation) : op.kind.isSigned = true := by
  cases op <;> rfl

end Operation

end RollupWallet
