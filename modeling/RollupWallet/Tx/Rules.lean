import RollupWallet.Layer1.Key
import RollupWallet.Name
import RollupWallet.Tx.Layout
import RollupWallet.Tx.Message

/-!
# Rules of the operations

Beyond the ranges of the fields that are hashed, every kind has rules of its own: two accounts that
must differ, texts that must not be long, hashes that must fit their content, an expiry that must
lie ahead. The rules are checked in a fixed order, and the first one broken is reported.
-/

namespace RollupWallet

/-- Reports a broken rule unless a condition holds. -/
def require (condition : Bool) (field : String) (reason : Reason) : Except InvalidInput Unit :=
  if condition then .ok () else .error ⟨field, reason⟩

namespace Rules

/-- The greatest number of bytes of a memo. -/
def maxMemoBytes : Nat := 128

/-- The greatest number of characters of a collection's name. -/
def maxNameCharacters : Nat := 32

/-- The greatest number of characters of a collection's introduction. -/
def maxIntroductionCharacters : Nat := 128

/-- The greatest number of bytes of an NFT's data and of its attributes. -/
def maxAttributesBytes : Nat := 2000

/-- The greatest number of bytes of call data. -/
def maxCallDataBytes : Nat := 2000

/-- An expiry must lie after the present. -/
def notExpired (context : Context) (expiry : Int64) : Except InvalidInput Unit :=
  require (context.now < expiry) "ExpiredAt" (.expired expiry.toInt context.now.toInt)

/-- A text must not have too many bytes. -/
def maxBytes (field : String) (text : String) (max : Nat) : Except InvalidInput Unit :=
  require (text.utf8ByteSize ≤ max) field (.tooManyBytes text.utf8ByteSize max)

/-- A text must have neither too few nor too many characters. -/
def characterCount (field : String) (text : String) (min max : Nat) : Except InvalidInput Unit :=
  require (min ≤ text.length && text.length ≤ max) field (.characterCount text.length min max)

/-- Call data must not be long, and if there is any, its hash must be the one given. -/
def callData (data : String) (hash : Bytes32) : Except InvalidInput Unit := do
  maxBytes "CallData" data maxCallDataBytes
  require (data = "" || Hash.mimc (Text.utf8 data) = hash) "CallDataHash" .callDataMismatch

/-- Sender and receiver must differ. -/
def distinctAccounts (sender receiver : Int64) : Except InvalidInput Unit :=
  require (sender ≠ receiver) "ToAccountIndex" (.sameAccount sender.toInt)

/-- A layer-1 receiver must not be the zero address. -/
def layer1Receiver (address : Address) : Except InvalidInput Unit :=
  require (!address.isZero) "ToAddress" .zeroAddress

/-- Each of several rates must be in range, and together they must not exceed the whole. -/
def rateSum (rates : List (String × Int64)) : Except InvalidInput Unit := do
  rates.forM fun (field, rate) =>
    require (FieldValue.isRate rate) field (.summandOutOfRange rate.toInt rateBase)
  let sum : Int := rates.foldl (fun sum (_, rate) => sum + rate.toInt) 0
  require (sum ≤ rateBase) "TreasuryRate" (.rateSum sum rateBase)

end Rules

open Rules

/-- The rules of a transfer. -/
def Transfer.check (context : Context) (op : Transfer) : Except InvalidInput Unit := do
  distinctAccounts op.fromAccount op.toAccount
  maxBytes "Memo" op.memo maxMemoBytes
  Rules.callData op.callData op.callDataHash
  notExpired context op.envelope.expiredAt

/-- The rules of a withdrawal. -/
def Withdraw.check (context : Context) (op : Withdraw) : Except InvalidInput Unit := do
  layer1Receiver op.toAddress
  notExpired context op.envelope.expiredAt

/-- The rules of an opening of a collection. -/
def CreateCollection.check (context : Context) (op : CreateCollection) :
    Except InvalidInput Unit := do
  characterCount "Name" op.name 1 maxNameCharacters
  characterCount "Introduction" op.introduction 0 maxIntroductionCharacters
  notExpired context op.envelope.expiredAt

/-- The rules of a mint. -/
def MintNft.check (context : Context) (op : MintNft) : Except InvalidInput Unit := do
  maxBytes "MetaData" op.metaData maxAttributesBytes
  maxBytes "MutableAttributes" op.mutableAttributes maxAttributesBytes
  require (RollupWallet.contentHash (Text.utf8 op.metaData) = op.contentHash) "NftContentHash"
    .metaDataMismatch
  notExpired context op.envelope.expiredAt

/-- The rules of a transfer of an NFT. -/
def TransferNft.check (context : Context) (op : TransferNft) : Except InvalidInput Unit := do
  distinctAccounts op.fromAccount op.toAccount
  Rules.callData op.callData op.callDataHash
  notExpired context op.envelope.expiredAt

/-- The rules of a withdrawal of an NFT. -/
def WithdrawNft.check (context : Context) (op : WithdrawNft) : Except InvalidInput Unit := do
  layer1Receiver op.toAddress
  notExpired context op.envelope.expiredAt

/-- The rules of an offer. -/
def Offer.check (context : Context) (op : Offer) : Except InvalidInput Unit := do
  require (op.listedAt ≤ op.expiredAt) "ListedAt" .listedAfterExpiry
  notExpired context op.expiredAt
  rateSum [("TreasuryRate", op.treasuryRate), ("ChanelRate", op.channelRate),
    ("ProtocolRate", op.protocolRate), ("RoyaltyRate", op.royaltyRate)]
  require (op.protocolAmount ≤ op.amount) "ProtocolAmount" .exceedsAssetAmount

/-- The rules that bind a buy offer and a sell offer together. -/
def checkOfferPair (buy sell : Offer) : Except InvalidInput Unit := do
  require (buy.side = .buy) "BuyOffer.Type" .notBuyOffer
  require (sell.side = .sell) "SellOffer.Type" .notSellOffer
  require (buy.nft = sell.nft) "SellOffer.NftIndex" .differsFromBuyOffer
  require (buy.asset = sell.asset) "SellOffer.AssetId" .differsFromBuyOffer
  require (buy.amount = sell.amount) "SellOffer.AssetAmount" .differsFromBuyOffer

/-- The rules of a match, among them those of both offers. -/
def AtomicMatch.check (context : Context) (op : AtomicMatch) : Except InvalidInput Unit := do
  checkOfferPair op.buy.content op.sell.content
  op.buy.content.check context
  op.sell.content.check context
  let _ ← op.buy.offerSig "BuyOffer.Sig"
  let _ ← op.sell.offerSig "SellOffer.Sig"
  notExpired context op.envelope.expiredAt

/-- The rules of a cancellation. -/
def CancelOffer.check (context : Context) (op : CancelOffer) : Except InvalidInput Unit :=
  notExpired context op.envelope.expiredAt

/-- The rules of a change of key: the new key must be a point of the curve, and a layer-1 signature
must be the owner's. -/
def ChangePubKey.check (context : Context) (op : ChangePubKey) : Except WalletError Unit := do
  let _ ← Eddsa.PublicKey.ofCoordinates op.keyX op.keyY
  match op.layer1Sig with
  | none => pure ()
  | some sig =>
    let signer ← Layer1.recover (Text.utf8 op.message) sig
    if signer ≠ op.owner then throw (.crypto .verificationFailed)
  notExpired context op.envelope.expiredAt

/-- The rules of an update of an NFT: its attributes must not be long, and its fields must be in
range. -/
def UpdateNft.check (op : UpdateNft) : Except InvalidInput Unit := do
  maxBytes "MutableAttributes" op.mutableAttributes maxAttributesBytes
  let _ ← op.fields.encode
  pure ()

namespace Operation

/-- The rules of an operation. -/
def check (context : Context) : Operation → Except WalletError Unit
  | changePubKey op => op.check context
  | transfer op => op.check context
  | withdraw op => op.check context
  | createCollection op => op.check context
  | mintNft op => op.check context
  | transferNft op => op.check context
  | atomicMatch op => op.check context
  | cancelOffer op => op.check context
  | withdrawNft op => op.check context
  | offer op => op.check context

/-- Checks the rules of an operation and the ranges of its fields. -/
def validate (context : Context) (op : Operation) : Except WalletError Unit := do
  op.check context
  let table ← op.table context.revision
  let _ ← table.encode
  pure ()

/-- Checks an operation and computes what is signed of it. -/
def signBody (context : Context) (op : Operation) : Except WalletError SignBody := do
  op.check context
  let table ← op.table context.revision
  table.signBody

/-- The digest of an operation. Its rules are not checked, so that a transaction can be examined
after it has expired. -/
def digest (revision : Revision) (op : Operation) : Except WalletError Bytes32 := do
  let table ← op.table revision
  return (← table.signBody).digest

end Operation

/-- Checks the signature of a transaction under a key. Like the digest, this leaves the rules
aside. -/
def Tx.verify (revision : Revision) (key : Eddsa.PublicKey) (tx : Tx) :
    Except WalletError Unit := do
  match tx.sig with
  | none => throw (.invalidInput ⟨"Sig", .unsignedTransaction⟩)
  | some sig =>
    let digest ← tx.content.digest revision
    key.verify digest.bytes sig

/-- Checks the signature of an offer inside a match under the key of the account that made it. -/
def Signed.verifyOffer (revision : Revision) (name : String) (key : Eddsa.PublicKey)
    (offer : Signed Offer) : Except WalletError Unit := do
  let sig ← offer.offerSig name
  let digest ← offer.content.digest revision
  key.verify digest.bytes sig

/-- Checks the signatures of both offers of a match under the keys of their accounts. -/
def AtomicMatch.verifyOffers (revision : Revision) (buyKey sellKey : Eddsa.PublicKey)
    (op : AtomicMatch) : Except WalletError Unit := do
  op.buy.verifyOffer revision "BuyOffer.Sig" buyKey
  op.sell.verifyOffer revision "SellOffer.Sig" sellKey

end RollupWallet
