import RollupWallet.Amount.Packed
import RollupWallet.Hash.Mimc
import RollupWallet.Name
import RollupWallet.Request.Basic

/-!
# From requests to operations

A request becomes an operation once the options and the defaults settle its envelope. What the
options settle always wins. Hashes are derived from what they stand for: the receiver's name, the
call data and the content of an NFT. The receiver's account and the id of a collection must have
been found out before.
-/

namespace RollupWallet

/-- How long a transaction may be executed if nobody says otherwise: two hours. -/
def defaultLifetime : Int64 := 7200000

/-- The asset of the fee if nobody says otherwise. -/
def defaultGasAsset : Int64 := 0

namespace RequestOptions

/-- The time until which the transaction may be executed. The lifetime is added on 64 bits without a
check for overflow, so the sum wraps round if the clock is less than two hours before the last
time. -/
def expiry (options : RequestOptions) (defaults : EnvelopeDefaults) : Int64 :=
  options.expiredAt.getD (defaults.now + defaultLifetime)

/-- The envelope. -/
def envelope (options : RequestOptions) (defaults : EnvelopeDefaults) : Envelope where
  gasAccount := options.gasAccount.getD defaults.gasAccount
  gasAsset := options.gasAsset.getD defaultGasAsset
  gasAmount := options.gasAmount.getD defaults.gasAmount
  expiredAt := options.expiry defaults
  nonce := options.nonce.getD defaults.nonce

/-- The receiving account. -/
def receiver (options : RequestOptions) : Except InvalidInput Int64 :=
  match options.toAccount with
  | some account => .ok account
  | none => .error ⟨"ToAccountIndex", .receiverUnresolved⟩

/-- The hash of the receiver's name. -/
def receiverHash (options : RequestOptions) (name : String) : Except InvalidInput Bytes32 :=
  match options.toNameHash with
  | some hash => .ok hash
  | none => nameHash name

/-- The hash of the call data, which is zero if there are none. -/
def dataHash (options : RequestOptions) : Bytes32 :=
  match options.callDataHash with
  | some hash => hash
  | none => if options.callData = "" then .zero else Hash.mimc (Text.utf8 options.callData)

end RequestOptions

/-- The protocol's share of an amount, rounded down and packed. -/
def protocolShare (amount : Nat) (rate : Int64) : Except InvalidInput Nat :=
  if rate < 0 then .error ⟨"ProtocolRate", .negativeRate⟩
  else packAmount (amount * rate.toInt.toNat / 10000)

namespace Request

variable (options : RequestOptions) (defaults : EnvelopeDefaults)

/-- The operation that a request asks for. -/
def build : Request → Except InvalidInput Operation
  | transfer request => do
    let toAccount ← options.receiver
    let toNameHash ← options.receiverHash request.toName
    return .transfer {
      fromAccount := options.fromAccount, toAccount, toNameHash, asset := request.asset,
      amount := request.amount, memo := options.memo, callData := options.callData,
      callDataHash := options.dataHash, envelope := options.envelope defaults }
  | withdraw request =>
    return .withdraw {
      fromAccount := options.fromAccount, asset := request.asset, amount := request.amount,
      toAddress := request.toAddress, envelope := options.envelope defaults }
  | createCollection request => do
    let some collection := request.collection
      | throw ⟨"CollectionId", .collectionUnresolved⟩
    return .createCollection {
      account := options.fromAccount, collection, name := request.name,
      introduction := request.introduction, envelope := options.envelope defaults }
  | mintNft request => do
    let toAccount ← options.receiver
    let toNameHash ← options.receiverHash request.toName
    return .mintNft {
      creator := options.fromAccount, toAccount, toNameHash,
      contentHash := RollupWallet.contentHash (Text.utf8 request.metaData),
      collection := request.collection, royaltyRate := request.royaltyRate,
      metaData := request.metaData, mutableAttributes := request.mutableAttributes,
      envelope := options.envelope defaults }
  | transferNft request => do
    let toAccount ← options.receiver
    let toNameHash ← options.receiverHash request.toName
    return .transferNft {
      fromAccount := options.fromAccount, toAccount, toNameHash, nft := request.nft,
      callData := options.callData, callDataHash := options.dataHash,
      envelope := options.envelope defaults }
  | withdrawNft request =>
    return .withdrawNft {
      account := options.fromAccount, nft := request.nft, toAddress := request.toAddress,
      envelope := options.envelope defaults }
  | offer request => do
    let protocolAmount ← protocolShare request.amount request.protocolRate
    return .offer {
      side := request.side, id := request.id, account := options.fromAccount, nft := request.nft,
      asset := request.asset, amount := request.amount,
      listedAt := request.listedAt.getD defaults.now, expiredAt := options.expiry defaults,
      treasuryRate := request.treasuryRate, channelAccount := request.channelAccount,
      channelRate := request.channelRate, protocolRate := request.protocolRate, protocolAmount,
      royaltyRate := request.royaltyRate, layer1Sig := none }
  | atomicMatch request =>
    return .atomicMatch {
      account := options.fromAccount, buy := request.buy, sell := request.sell,
      envelope := options.envelope defaults }
  | cancelOffer request =>
    return .cancelOffer {
      account := options.fromAccount, offer := request.offer,
      envelope := options.envelope defaults }
  | changePubKey request =>
    return .changePubKey {
      account := options.fromAccount, owner := request.owner, keyX := request.keyX,
      keyY := request.keyY, envelope := options.envelope defaults,
      layer1Sig := request.layer1Sig }

end Request

/-- The update of an NFT that a request asks for. Of the envelope it has only the counter. -/
def UpdateNftRequest.build (options : RequestOptions) (defaults : EnvelopeDefaults)
    (request : UpdateNftRequest) : UpdateNft where
  nft := request.nft
  mutableAttributes := request.mutableAttributes
  account := options.fromAccount
  nonce := options.nonce.getD defaults.nonce

end RollupWallet
