import RollupWallet.Request.Basic
import RollupWallet.Tx.Wire

/-!
# Requests in JSON

Requests and their options are read and written like transactions, except that what is left open
is written as `null`.
-/

namespace RollupWallet

open Json

/-- A request for a transfer in JSON. -/
def TransferRequest.codec : Codec TransferRequest :=
  (Codec.record
    [.required "ToAccountName" .string, .required "AssetId" .int64,
      .required "AssetAmount" .amount]).imap
    (fun (toName, asset, amount, ()) => ⟨toName, asset, amount⟩)
    (fun request => (request.toName, request.asset, request.amount, ()))

/-- A request for a withdrawal in JSON. -/
def WithdrawRequest.codec : Codec WithdrawRequest :=
  (Codec.record
    [.required "AssetId" .int64, .required "AssetAmount" .amount,
      .required "ToAddress" .address]).imap
    (fun (asset, amount, toAddress, ()) => ⟨asset, amount, toAddress⟩)
    (fun request => (request.asset, request.amount, request.toAddress, ()))

/-- A request for a collection in JSON. -/
def CreateCollectionRequest.codec : Codec CreateCollectionRequest :=
  (Codec.record
    [.nullable "CollectionId" .int64, .required "Name" .string,
      .required "Introduction" .string]).imap
    (fun (collection, name, introduction, ()) => ⟨collection, name, introduction⟩)
    (fun request => (request.collection, request.name, request.introduction, ()))

/-- A request for a mint in JSON. -/
def MintNftRequest.codec : Codec MintNftRequest :=
  (Codec.record
    [.required "ToAccountName" .string, .required "NftCollectionId" .int64,
      .required "RoyaltyRate" .int64, .required "MetaData" .string,
      .required "MutableAttributes" .string]).imap
    (fun (toName, collection, royaltyRate, metaData, mutableAttributes, ()) =>
      ⟨toName, collection, royaltyRate, metaData, mutableAttributes⟩)
    (fun request =>
      (request.toName, request.collection, request.royaltyRate, request.metaData,
        request.mutableAttributes, ()))

/-- A request for a transfer of an NFT in JSON. -/
def TransferNftRequest.codec : Codec TransferNftRequest :=
  (Codec.record [.required "NftIndex" .int64, .required "ToAccountName" .string]).imap
    (fun (nft, toName, ()) => ⟨nft, toName⟩)
    (fun request => (request.nft, request.toName, ()))

/-- A request for a withdrawal of an NFT in JSON. -/
def WithdrawNftRequest.codec : Codec WithdrawNftRequest :=
  (Codec.record [.required "NftIndex" .int64, .required "ToAddress" .address]).imap
    (fun (nft, toAddress, ()) => ⟨nft, toAddress⟩)
    (fun request => (request.nft, request.toAddress, ()))

/-- A request for an offer in JSON. -/
def OfferRequest.codec : Codec OfferRequest :=
  (Codec.record
    [.required "Type" .side, .required "OfferId" .int64, .required "NftIndex" .int64,
      .required "AssetId" .int64, .required "AssetAmount" .amount, .nullable "ListedAt" .int64,
      .required "TreasuryRate" .int64, .withDefault "ChanelAccountIndex" .int64 0,
      .withDefault "ChanelRate" .int64 0, .withDefault "ProtocolRate" .int64 0,
      .withDefault "RoyaltyRate" .int64 0]).imap
    (fun (side, id, nft, asset, amount, listedAt, treasuryRate, channelAccount, channelRate,
        protocolRate, royaltyRate, ()) =>
      ⟨side, id, nft, asset, amount, listedAt, treasuryRate, channelAccount, channelRate,
        protocolRate, royaltyRate⟩)
    (fun request =>
      (request.side, request.id, request.nft, request.asset, request.amount, request.listedAt,
        request.treasuryRate, request.channelAccount, request.channelRate, request.protocolRate,
        request.royaltyRate, ()))

/-- A request for a match in JSON. -/
def AtomicMatchRequest.codec : Codec AtomicMatchRequest :=
  (Codec.record [.required "BuyOffer" Offer.codec, .required "SellOffer" Offer.codec]).imap
    (fun (buy, sell, ()) => ⟨buy, sell⟩)
    (fun request => (request.buy, request.sell, ()))

/-- A request for a cancellation in JSON. -/
def CancelOfferRequest.codec : Codec CancelOfferRequest :=
  (Codec.record [.required "OfferId" .int64]).imap
    (fun (offer, ()) => ⟨offer⟩)
    (fun request => (request.offer, ()))

/-- A request for another key in JSON. -/
def ChangePubKeyRequest.codec : Codec ChangePubKeyRequest :=
  (Codec.record
    [.required "L1Address" .address, .required "PubKeyX" .bytes32, .required "PubKeyY" .bytes32,
      .nullable "L1Sig" .bytes]).imap
    (fun (owner, keyX, keyY, layer1Sig, ()) => ⟨owner, keyX, keyY, layer1Sig⟩)
    (fun request => (request.owner, request.keyX, request.keyY, request.layer1Sig, ()))

/-- A request for an update of an NFT in JSON. -/
def UpdateNftRequest.codec : Codec UpdateNftRequest :=
  (Codec.record [.required "NftIndex" .int64, .required "MutableAttributes" .string]).imap
    (fun (nft, mutableAttributes, ()) => ⟨nft, mutableAttributes⟩)
    (fun request => (request.nft, request.mutableAttributes, ()))

/-- The options of a request in JSON. -/
def RequestOptions.codec : Codec RequestOptions :=
  (Codec.record
    [.required "FromAccountIndex" .int64, .nullable "ToAccountIndex" .int64,
      .nullable "ToAccountAddress" .address, .nullable "ToAccountNameHash" .bytes32,
      .nullable "GasAccountIndex" .int64, .nullable "GasFeeAssetId" .int64,
      .nullable "GasFeeAssetAmount" .amount, .withDefault "CallData" .string "",
      .nullable "CallDataHash" .bytes32, .nullable "ExpiredAt" .int64, .nullable "Nonce" .int64,
      .withDefault "Memo" .string ""]).imap
    (fun (fromAccount, toAccount, toAddress, toNameHash, gasAccount, gasAsset, gasAmount, callData,
        callDataHash, expiredAt, nonce, memo, ()) =>
      ⟨fromAccount, toAccount, toAddress, toNameHash, gasAccount, gasAsset, gasAmount, callData,
        callDataHash, expiredAt, nonce, memo⟩)
    (fun options =>
      (options.fromAccount, options.toAccount, options.toAddress, options.toNameHash,
        options.gasAccount, options.gasAsset, options.gasAmount, options.callData,
        options.callDataHash, options.expiredAt, options.nonce, options.memo, ()))

namespace Request

/-- Reads the text of a request of a given kind. Kinds that are not signed have none. -/
def ofJson (kind : TxKind) (text : Bytes) : Except WalletError Request := do
  match kind with
  | .changePubKey => return .changePubKey (← ChangePubKeyRequest.codec.ofText text)
  | .transfer => return .transfer (← TransferRequest.codec.ofText text)
  | .withdraw => return .withdraw (← WithdrawRequest.codec.ofText text)
  | .createCollection => return .createCollection (← CreateCollectionRequest.codec.ofText text)
  | .mintNft => return .mintNft (← MintNftRequest.codec.ofText text)
  | .transferNft => return .transferNft (← TransferNftRequest.codec.ofText text)
  | .atomicMatch => return .atomicMatch (← AtomicMatchRequest.codec.ofText text)
  | .cancelOffer => return .cancelOffer (← CancelOfferRequest.codec.ofText text)
  | .withdrawNft => return .withdrawNft (← WithdrawNftRequest.codec.ofText text)
  | .offer => return .offer (← OfferRequest.codec.ofText text)
  | kind => throw (.mismatch (.notSigned kind))

/-- The text of a request. -/
def toJson : Request → Bytes
  | changePubKey request => ChangePubKeyRequest.codec.toText request
  | transfer request => TransferRequest.codec.toText request
  | withdraw request => WithdrawRequest.codec.toText request
  | createCollection request => CreateCollectionRequest.codec.toText request
  | mintNft request => MintNftRequest.codec.toText request
  | transferNft request => TransferNftRequest.codec.toText request
  | atomicMatch request => AtomicMatchRequest.codec.toText request
  | cancelOffer request => CancelOfferRequest.codec.toText request
  | withdrawNft request => WithdrawNftRequest.codec.toText request
  | offer request => OfferRequest.codec.toText request

end Request

end RollupWallet
