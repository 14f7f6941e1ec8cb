import RollupWallet.Digest
import RollupWallet.Error.Basic
import RollupWallet.Json.Record
import RollupWallet.Text.Base64
import RollupWallet.Tx.Operation

/-!
# Transactions on the wire

Every kind of transaction has a schema: the members of its JSON object in the order in which they
are written. The kind itself is not among them; it is known to whoever reads the text. Amounts are
bare numbers of any size, signatures are in Base64, and a signature that is not there is not
written.
-/

namespace RollupWallet

open Json

/-! ### Leaves -/

namespace Json.Codec

/-- A digest or a coordinate, in hexadecimal text. -/
def bytes32 : Codec Bytes32 := string.checked bytes32OfHex FixedBytes.hex

/-- The kind of a transaction, by its tag. -/
def kind : Codec TxKind :=
  (below 256).checked
    (fun tag =>
      match TxKind.ofTag? tag with
      | some kind => .ok kind
      | none => .error ⟨"tx_type", .unknownKind tag⟩)
    TxKind.tag

/-- The side of an offer, by its tag. -/
def side : Codec OfferSide :=
  (below 256).refine
    (fun tag =>
      match OfferSide.ofTag? tag with
      | some side => .ok side
      | none => .error (.unknownSide tag))
    OfferSide.tag

/-- The bytes of a signature, in Base64 or as an array. -/
def signatureBytes (tree : Json) : Except Fault Bytes :=
  match tree with
  | .array _ items => bytesOfItems items
  | tree => do
    let text ← string.read tree
    match Text.Base64.decode? (Text.utf8 text) with
    | some bytes => pure bytes
    | none => throw .malformed

/-- A signature, in Base64. An array of its bytes is read as well. -/
def signature : Codec Eddsa.Signature where
  read tree := do
    let bytes ← signatureBytes tree
    (Eddsa.Signature.ofBytes bytes).mapError Fault.invalidInput
  write sig := .string (Text.Base64.encode sig.toBytes)

/-- A layer-1 address. -/
def address : Codec Address := word 20

end Json.Codec

/-! ### Shared members -/

/-- The member of a signature. -/
def sigMember : Member := .omittable "Sig" .signature

/-- The member of a layer-1 signature. -/
def layer1SigMember : Member := .omittable "L1Sig" .bytes

/-! ### Schemas -/

namespace Transfer

/-- The members of a transfer. -/
def schema : List Member :=
  [.required "FromAccountIndex" .int64, .required "ToAccountIndex" .int64,
    .required "ToAccountNameHash" .bytes32, .required "AssetId" .int64,
    .required "AssetAmount" .amount, .required "GasAccountIndex" .int64,
    .required "GasFeeAssetId" .int64, .required "GasFeeAssetAmount" .amount,
    .required "Memo" .string, .required "CallData" .string, .required "CallDataHash" .bytes32,
    .required "ExpiredAt" .int64, .required "Nonce" .int64, sigMember]

/-- A transfer on the wire. -/
def codec : Codec (Signed Transfer) :=
  (Codec.record schema).imap
    (fun (fromAccount, toAccount, toNameHash, asset, amount, gasAccount, gasAsset, gasAmount, memo,
        callData, callDataHash, expiredAt, nonce, sig, ()) =>
      ⟨⟨fromAccount, toAccount, toNameHash, asset, amount, memo, callData, callDataHash,
        ⟨gasAccount, gasAsset, gasAmount, expiredAt, nonce⟩⟩, sig⟩)
    (fun ⟨op, sig⟩ =>
      (op.fromAccount, op.toAccount, op.toNameHash, op.asset, op.amount, op.envelope.gasAccount,
        op.envelope.gasAsset, op.envelope.gasAmount, op.memo, op.callData, op.callDataHash,
        op.envelope.expiredAt, op.envelope.nonce, sig, ()))

end Transfer

namespace Withdraw

/-- The members of a withdrawal. -/
def schema : List Member :=
  [.required "FromAccountIndex" .int64, .required "AssetId" .int64,
    .required "AssetAmount" .amount, .required "GasAccountIndex" .int64,
    .required "GasFeeAssetId" .int64, .required "GasFeeAssetAmount" .amount,
    .required "ToAddress" .address, .required "ExpiredAt" .int64, .required "Nonce" .int64,
    sigMember]

/-- A withdrawal on the wire. -/
def codec : Codec (Signed Withdraw) :=
  (Codec.record schema).imap
    (fun (fromAccount, asset, amount, gasAccount, gasAsset, gasAmount, toAddress, expiredAt, nonce,
        sig, ()) =>
      ⟨⟨fromAccount, asset, amount, toAddress,
        ⟨gasAccount, gasAsset, gasAmount, expiredAt, nonce⟩⟩, sig⟩)
    (fun ⟨op, sig⟩ =>
      (op.fromAccount, op.asset, op.amount, op.envelope.gasAccount, op.envelope.gasAsset,
        op.envelope.gasAmount, op.toAddress, op.envelope.expiredAt, op.envelope.nonce, sig, ()))

end Withdraw

namespace CreateCollection

/-- The members of an opening of a collection. -/
def schema : List Member :=
  [.required "AccountIndex" .int64, .required "CollectionId" .int64, .required "Name" .string,
    .required "Introduction" .string, .required "GasAccountIndex" .int64,
    .required "GasFeeAssetId" .int64, .required "GasFeeAssetAmount" .amount,
    .required "ExpiredAt" .int64, .required "Nonce" .int64, sigMember]

/-- An opening of a collection on the wire. -/
def codec : Codec (Signed CreateCollection) :=
  (Codec.record schema).imap
    (fun (account, collection, name, introduction, gasAccount, gasAsset, gasAmount, expiredAt,
        nonce, sig, ()) =>
      ⟨⟨account, collection, name, introduction,
        ⟨gasAccount, gasAsset, gasAmount, expiredAt, nonce⟩⟩, sig⟩)
    (fun ⟨op, sig⟩ =>
      (op.account, op.collection, op.name, op.introduction, op.envelope.gasAccount,
        op.envelope.gasAsset, op.envelope.gasAmount, op.envelope.expiredAt, op.envelope.nonce,
        sig, ()))

end CreateCollection

namespace MintNft

/-- The members of a mint. -/
def schema : List Member :=
  [.required "CreatorAccountIndex" .int64, .required "ToAccountIndex" .int64,
    .required "ToAccountNameHash" .bytes32, .required "NftContentHash" .bytes32,
    .required "NftCollectionId" .int64, .required "RoyaltyRate" .int64,
    .required "MetaData" .string, .required "MutableAttributes" .string,
    .required "GasAccountIndex" .int64, .required "GasFeeAssetId" .int64,
    .required "GasFeeAssetAmount" .amount, .required "ExpiredAt" .int64,
    .required "Nonce" .int64, sigMember]

/-- A mint on the wire. -/
def codec : Codec (Signed MintNft) :=
  (Codec.record schema).imap
    (fun (creator, toAccount, toNameHash, contentHash, collection, royaltyRate, metaData,
        mutableAttributes, gasAccount, gasAsset, gasAmount, expiredAt, nonce, sig, ()) =>
      ⟨⟨creator, toAccount, toNameHash, contentHash, collection, royaltyRate, metaData,
        mutableAttributes, ⟨gasAccount, gasAsset, gasAmount, expiredAt, nonce⟩⟩, sig⟩)
    (fun ⟨op, sig⟩ =>
      (op.creator, op.toAccount, op.toNameHash, op.contentHash, op.collection, op.royaltyRate,
        op.metaData, op.mutableAttributes, op.envelope.gasAccount, op.envelope.gasAsset,
        op.envelope.gasAmount, op.envelope.expiredAt, op.envelope.nonce, sig, ()))

end MintNft

namespace TransferNft

/-- The members of a transfer of an NFT. -/
def schema : List Member :=
  [.required "FromAccountIndex" .int64, .required "ToAccountIndex" .int64,
    .required "ToAccountNameHash" .bytes32, .required "NftIndex" .int64,
    .required "GasAccountIndex" .int64, .required "GasFeeAssetId" .int64,
    .required "GasFeeAssetAmount" .amount, .required "CallData" .string,
    .required "CallDataHash" .bytes32, .required "ExpiredAt" .int64, .required "Nonce" .int64,
    sigMember]

/-- A transfer of an NFT on the wire. -/
def codec : Codec (Signed TransferNft) :=
  (Codec.record schema).imap
    (fun (fromAccount, toAccount, toNameHash, nft, gasAccount, gasAsset, gasAmount, callData,
        callDataHash, expiredAt, nonce, sig, ()) =>
      ⟨⟨fromAccount, toAccount, toNameHash, nft, callData, callDataHash,
        ⟨gasAccount, gasAsset, gasAmount, expiredAt, nonce⟩⟩, sig⟩)
    (fun ⟨op, sig⟩ =>
      (op.fromAccount, op.toAccount, op.toNameHash, op.nft, op.envelope.gasAccount,
        op.envelope.gasAsset, op.envelope.gasAmount, op.callData, op.callDataHash,
        op.envelope.expiredAt, op.envelope.nonce, sig, ()))

end TransferNft

namespace WithdrawNft

/-- The members of a withdrawal of an NFT. -/
def schema : List Member :=
  [.required "AccountIndex" .int64, .required "NftIndex" .int64, .required "ToAddress" .address,
    .required "GasAccountIndex" .int64, .required "GasFeeAssetId" .int64,
    .required "GasFeeAssetAmount" .amount, .required "ExpiredAt" .int64,
    .required "Nonce" .int64, sigMember]

/-- A withdrawal of an NFT on the wire. -/
def codec : Codec (Signed WithdrawNft) :=
  (Codec.record schema).imap
    (fun (account, nft, toAddress, gasAccount, gasAsset, gasAmount, expiredAt, nonce, sig, ()) =>
      ⟨⟨account, nft, toAddress, ⟨gasAccount, gasAsset, gasAmount, expiredAt, nonce⟩⟩, sig⟩)
    (fun ⟨op, sig⟩ =>
      (op.account, op.nft, op.toAddress, op.envelope.gasAccount, op.envelope.gasAsset,
        op.envelope.gasAmount, op.envelope.expiredAt, op.envelope.nonce, sig, ()))

end WithdrawNft

namespace Offer

/-- The members of an offer. -/
def schema : List Member :=
  [.required "Type" .side, .required "OfferId" .int64, .required "AccountIndex" .int64,
    .required "NftIndex" .int64, .required "AssetId" .int64, .required "AssetAmount" .amount,
    .required "ListedAt" .int64, .required "ExpiredAt" .int64, .required "TreasuryRate" .int64,
    .withDefault "ChanelAccountIndex" .int64 0, .withDefault "ChanelRate" .int64 0,
    .withDefault "ProtocolRate" .int64 0, .withDefault "ProtocolAmount" .amount 0,
    .withDefault "RoyaltyRate" .int64 0, sigMember, layer1SigMember]

/-- An offer on the wire. -/
def codec : Codec (Signed Offer) :=
  (Codec.record schema).imap
    (fun (side, id, account, nft, asset, amount, listedAt, expiredAt, treasuryRate, channelAccount,
        channelRate, protocolRate, protocolAmount, royaltyRate, sig, layer1Sig, ()) =>
      ⟨⟨side, id, account, nft, asset, amount, listedAt, expiredAt, treasuryRate, channelAccount,
        channelRate, protocolRate, protocolAmount, royaltyRate, layer1Sig⟩, sig⟩)
    (fun ⟨op, sig⟩ =>
      (op.side, op.id, op.account, op.nft, op.asset, op.amount, op.listedAt, op.expiredAt,
        op.treasuryRate, op.channelAccount, op.channelRate, op.protocolRate, op.protocolAmount,
        op.royaltyRate, sig, op.layer1Sig, ()))

end Offer

namespace AtomicMatch

/-- The members of a match. -/
def schema : List Member :=
  [.required "AccountIndex" .int64, .required "BuyOffer" Offer.codec,
    .required "SellOffer" Offer.codec, .required "GasAccountIndex" .int64,
    .required "GasFeeAssetId" .int64, .required "GasFeeAssetAmount" .amount,
    .required "ExpiredAt" .int64, .required "Nonce" .int64, sigMember]

/-- A match on the wire. -/
def codec : Codec (Signed AtomicMatch) :=
  (Codec.record schema).imap
    (fun (account, buy, sell, gasAccount, gasAsset, gasAmount, expiredAt, nonce, sig, ()) =>
      ⟨⟨account, buy, sell, ⟨gasAccount, gasAsset, gasAmount, expiredAt, nonce⟩⟩, sig⟩)
    (fun ⟨op, sig⟩ =>
      (op.account, op.buy, op.sell, op.envelope.gasAccount, op.envelope.gasAsset,
        op.envelope.gasAmount, op.envelope.expiredAt, op.envelope.nonce, sig, ()))

end AtomicMatch

namespace CancelOffer

/-- The members of a cancellation. -/
def schema : List Member :=
  [.required "AccountIndex" .int64, .required "OfferId" .int64,
    .required "GasAccountIndex" .int64, .required "GasFeeAssetId" .int64,
    .required "GasFeeAssetAmount" .amount, .required "ExpiredAt" .int64,
    .required "Nonce" .int64, sigMember]

/-- A cancellation on the wire. -/
def codec : Codec (Signed CancelOffer) :=
  (Codec.record schema).imap
    (fun (account, offer, gasAccount, gasAsset, gasAmount, expiredAt, nonce, sig, ()) =>
      ⟨⟨account, offer, ⟨gasAccount, gasAsset, gasAmount, expiredAt, nonce⟩⟩, sig⟩)
    (fun ⟨op, sig⟩ =>
      (op.account, op.offer, op.envelope.gasAccount, op.envelope.gasAsset, op.envelope.gasAmount,
        op.envelope.expiredAt, op.envelope.nonce, sig, ()))

end CancelOffer

namespace ChangePubKey

/-- The members of a change of key. -/
def schema : List Member :=
  [.required "AccountIndex" .int64, .required "L1Address" .address,
    .required "PubKeyX" .bytes32, .required "PubKeyY" .bytes32,
    .required "GasAccountIndex" .int64, .required "GasFeeAssetId" .int64,
    .required "GasFeeAssetAmount" .amount, .required "ExpiredAt" .int64,
    .required "Nonce" .int64, sigMember, layer1SigMember]

/-- A change of key on the wire. -/
def codec : Codec (Signed ChangePubKey) :=
  (Codec.record schema).imap
    (fun (account, owner, keyX, keyY, gasAccount, gasAsset, gasAmount, expiredAt, nonce, sig,
        layer1Sig, ()) =>
      ⟨⟨account, owner, keyX, keyY, ⟨gasAccount, gasAsset, gasAmount, expiredAt, nonce⟩,
        layer1Sig⟩, sig⟩)
    (fun ⟨op, sig⟩ =>
      (op.account, op.owner, op.keyX, op.keyY, op.envelope.gasAccount, op.envelope.gasAsset,
        op.envelope.gasAmount, op.envelope.expiredAt, op.envelope.nonce, sig, op.layer1Sig, ()))

end ChangePubKey

namespace UpdateNft

/-- The members of an update of an NFT. -/
def schema : List Member :=
  [.required "NftIndex" .int64, .required "MutableAttributes" .string,
    .required "AccountIndex" .int64, .required "Nonce" .int64]

/-- An update of an NFT on the wire. -/
def codec : Codec UpdateNft :=
  (Codec.record schema).imap
    (fun (nft, mutableAttributes, account, nonce, ()) => ⟨nft, mutableAttributes, account, nonce⟩)
    (fun op => (op.nft, op.mutableAttributes, op.account, op.nonce, ()))

end UpdateNft

/-! ### Transactions of any kind -/

/-- Does something to the operation and keeps the signature. -/
def Signed.map {α β : Type} (f : α → β) (tx : Signed α) : Signed β := ⟨f tx.content, tx.sig⟩

namespace Tx

/-- Reads the text of a transaction of a given kind. Kinds that are not signed have none. -/
def ofJson (kind : TxKind) (text : Bytes) : Except WalletError Tx := do
  match kind with
  | .changePubKey => return (← ChangePubKey.codec.ofText text).map .changePubKey
  | .transfer => return (← Transfer.codec.ofText text).map .transfer
  | .withdraw => return (← Withdraw.codec.ofText text).map .withdraw
  | .createCollection => return (← CreateCollection.codec.ofText text).map .createCollection
  | .mintNft => return (← MintNft.codec.ofText text).map .mintNft
  | .transferNft => return (← TransferNft.codec.ofText text).map .transferNft
  | .atomicMatch => return (← AtomicMatch.codec.ofText text).map .atomicMatch
  | .cancelOffer => return (← CancelOffer.codec.ofText text).map .cancelOffer
  | .withdrawNft => return (← WithdrawNft.codec.ofText text).map .withdrawNft
  | .offer => return (← Offer.codec.ofText text).map .offer
  | .updateNft => throw (.mismatch .updateUnsigned)
  | kind => throw (.mismatch (.notSigned kind))

/-- The tree of a transaction. -/
def tree (tx : Tx) : Json :=
  match tx.content with
  | .changePubKey op => ChangePubKey.codec.write ⟨op, tx.sig⟩
  | .transfer op => Transfer.codec.write ⟨op, tx.sig⟩
  | .withdraw op => Withdraw.codec.write ⟨op, tx.sig⟩
  | .createCollection op => CreateCollection.codec.write ⟨op, tx.sig⟩
  | .mintNft op => MintNft.codec.write ⟨op, tx.sig⟩
  | .transferNft op => TransferNft.codec.write ⟨op, tx.sig⟩
  | .atomicMatch op => AtomicMatch.codec.write ⟨op, tx.sig⟩
  | .cancelOffer op => CancelOffer.codec.write ⟨op, tx.sig⟩
  | .withdrawNft op => WithdrawNft.codec.write ⟨op, tx.sig⟩
  | .offer op => Offer.codec.write ⟨op, tx.sig⟩

/-- The text of a transaction. -/
def toJson (tx : Tx) : Bytes := tx.tree.text

end Tx

end RollupWallet
