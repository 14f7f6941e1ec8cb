import RollupWallet.Tx.Operation

/-!
# Requests

A request says what an account wants in its own terms, with names where the operation has hashes
and without the parts that follow from the rest. The options say who asks and may settle any part
of the envelope; the defaults settle what they leave open.
-/

namespace RollupWallet

/-- An amount of an asset to a named account. -/
structure TransferRequest where
  toName : String
  asset : Int64
  amount : Nat
deriving DecidableEq

/-- An amount of an asset to a layer-1 address. -/
structure WithdrawRequest where
  asset : Int64
  amount : Nat
  toAddress : Address
deriving DecidableEq

/-- A new collection; its id may be left open. -/
structure CreateCollectionRequest where
  collection : Option Int64
  name : String
  introduction : String
deriving DecidableEq

/-- A new NFT for a named account. -/
structure MintNftRequest where
  toName : String
  collection : Int64
  royaltyRate : Int64
  metaData : String
  mutableAttributes : String
deriving DecidableEq

/-- An NFT to a named account. -/
structure TransferNftRequest where
  nft : Int64
  toName : String
deriving DecidableEq

/-- An NFT to a layer-1 address. -/
structure WithdrawNftRequest where
  nft : Int64
  toAddress : Address
deriving DecidableEq

/-- One side of a trade. -/
structure OfferRequest where
  side : OfferSide
  id : Int64
  nft : Int64
  asset : Int64
  amount : Nat
  listedAt : Option Int64
  treasuryRate : Int64
  channelAccount : Int64
  channelRate : Int64
  protocolRate : Int64
  royaltyRate : Int64
deriving DecidableEq

/-- The settlement of two offers. -/
structure AtomicMatchRequest where
  buy : Signed Offer
  sell : Signed Offer
deriving DecidableEq

/-- The end of an offer. -/
structure CancelOfferRequest where
  offer : Int64
deriving DecidableEq

/-- Another key for the account. -/
structure ChangePubKeyRequest where
  owner : Address
  keyX : Bytes32
  keyY : Bytes32
  layer1Sig : Option Bytes
deriving DecidableEq

/-- Other attributes for an NFT. -/
structure UpdateNftRequest where
  nft : Int64
  mutableAttributes : String
deriving DecidableEq

/-- A request that becomes a signed transaction. -/
inductive Request where
  | changePubKey (request : ChangePubKeyRequest)
  | transfer (request : TransferRequest)
  | withdraw (request : WithdrawRequest)
  | createCollection (request : CreateCollectionRequest)
  | mintNft (request : MintNftRequest)
  | transferNft (request : TransferNftRequest)
  | atomicMatch (request : AtomicMatchRequest)
  | cancelOffer (request : CancelOfferRequest)
  | withdrawNft (request : WithdrawNftRequest)
  | offer (request : OfferRequest)
deriving DecidableEq

/-- The kind of the transaction that a request becomes. -/
def Request.kind : Request → TxKind
  | changePubKey _ => .changePubKey
  | transfer _ => .transfer
  | withdraw _ => .withdraw
  | createCollection _ => .createCollection
  | mintNft _ => .mintNft
  | transferNft _ => .transferNft
  | atomicMatch _ => .atomicMatch
  | cancelOffer _ => .cancelOffer
  | withdrawNft _ => .withdrawNft
  | offer _ => .offer

/-- Who asks, and the parts of the envelope that are settled beforehand. -/
structure RequestOptions where
  fromAccount : Int64
  toAccount : Option Int64
  toAddress : Option Address
  toNameHash : Option Bytes32
  gasAccount : Option Int64
  gasAsset : Option Int64
  gasAmount : Option Nat
  callData : String
  callDataHash : Option Bytes32
  expiredAt : Option Int64
  nonce : Option Int64
  memo : String
deriving DecidableEq

/-- What stands in for the parts of the envelope that are left open. -/
structure EnvelopeDefaults where
  gasAccount : Int64
  gasAmount : Nat
  nonce : Int64
  now : Int64
deriving DecidableEq

end RollupWallet
