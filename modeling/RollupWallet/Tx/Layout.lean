import RollupWallet.Tx.Context
import RollupWallet.Tx.Operation
import RollupWallet.Tx.Table

/-!
# What is hashed of each operation

The table of an operation begins with its kind and ends, for all but offers, with the fee, the
expiry and the counter. Neither the signature nor the clock enters a table; the revision of the
protocol decides whether an offer's later terms do. In the table of a match each offer stands with
its own digest and its signature, so a match of unsigned offers has none.
-/

namespace RollupWallet

/-- The fields of the fee. -/
def Envelope.feeFields (envelope : Envelope) : Table :=
  [⟨"GasAccountIndex", .accountIndex envelope.gasAccount⟩,
    ⟨"GasFeeAssetId", .assetId envelope.gasAsset⟩,
    ⟨"GasFeeAssetAmount", .amount envelope.gasAmount⟩]

/-- The fields of expiry and counter. -/
def Envelope.closingFields (envelope : Envelope) : Table :=
  [⟨"ExpiredAt", .counter envelope.expiredAt⟩, ⟨"Nonce", .counter envelope.nonce⟩]

/-- The field of a kind. -/
def kindField (kind : TxKind) : Field := ⟨"TxType", .kind kind⟩

/-- The table of a transfer. -/
def Transfer.table (op : Transfer) : Table :=
  [kindField .transfer,
    ⟨"FromAccountIndex", .accountIndex op.fromAccount⟩,
    ⟨"ToAccountIndex", .accountIndex op.toAccount⟩,
    ⟨"ToAccountNameHash", .hash op.toNameHash⟩,
    ⟨"AssetId", .assetId op.asset⟩,
    ⟨"AssetAmount", .amount op.amount⟩] ++
  op.envelope.feeFields ++
  [⟨"Memo", .blob (Text.utf8 op.memo)⟩, ⟨"CallDataHash", .hash op.callDataHash⟩] ++
  op.envelope.closingFields

/-- The table of a withdrawal. -/
def Withdraw.table (op : Withdraw) : Table :=
  [kindField .withdraw,
    ⟨"FromAccountIndex", .accountIndex op.fromAccount⟩,
    ⟨"AssetId", .assetId op.asset⟩,
    ⟨"AssetAmount", .amount op.amount⟩] ++
  op.envelope.feeFields ++
  [⟨"ToAddress", .address op.toAddress⟩] ++
  op.envelope.closingFields

/-- The table of an opening of a collection. -/
def CreateCollection.table (op : CreateCollection) : Table :=
  [kindField .createCollection,
    ⟨"AccountIndex", .accountIndex op.account⟩,
    ⟨"CollectionId", .collectionId op.collection⟩,
    ⟨"Name", .blob (Text.utf8 op.name)⟩,
    ⟨"Introduction", .blob (Text.utf8 op.introduction)⟩] ++
  op.envelope.feeFields ++
  op.envelope.closingFields

/-- The table of a mint. -/
def MintNft.table (op : MintNft) : Table :=
  [kindField .mintNft,
    ⟨"CreatorAccountIndex", .accountIndex op.creator⟩,
    ⟨"ToAccountIndex", .accountIndex op.toAccount⟩,
    ⟨"ToAccountNameHash", .hash op.toNameHash⟩,
    ⟨"NftContentHash", .hash op.contentHash⟩,
    ⟨"NftCollectionId", .collectionId op.collection⟩,
    ⟨"RoyaltyRate", .rate op.royaltyRate⟩,
    ⟨"MutableAttributes", .blob (Text.utf8 op.mutableAttributes)⟩] ++
  op.envelope.feeFields ++
  op.envelope.closingFields

/-- The table of a transfer of an NFT. -/
def TransferNft.table (op : TransferNft) : Table :=
  [kindField .transferNft,
    ⟨"FromAccountIndex", .accountIndex op.fromAccount⟩,
    ⟨"ToAccountIndex", .accountIndex op.toAccount⟩,
    ⟨"ToAccountNameHash", .hash op.toNameHash⟩,
    ⟨"NftIndex", .nftIndex op.nft⟩] ++
  op.envelope.feeFields ++
  [⟨"CallDataHash", .hash op.callDataHash⟩] ++
  op.envelope.closingFields

/-- The table of a withdrawal of an NFT. -/
def WithdrawNft.table (op : WithdrawNft) : Table :=
  [kindField .withdrawNft,
    ⟨"AccountIndex", .accountIndex op.account⟩,
    ⟨"NftIndex", .nftIndex op.nft⟩,
    ⟨"ToAddress", .address op.toAddress⟩] ++
  op.envelope.feeFields ++
  op.envelope.closingFields

/-- The terms of an offer that are hashed under every revision. -/
def Offer.baseFields (op : Offer) : Table :=
  [kindField .offer,
    ⟨"Type", .flag (op.side = .sell)⟩,
    ⟨"OfferId", .offerId op.id⟩,
    ⟨"AccountIndex", .accountIndex op.account⟩,
    ⟨"NftIndex", .nftIndex op.nft⟩,
    ⟨"AssetId", .assetId op.asset⟩,
    ⟨"AssetAmount", .amount op.amount⟩,
    ⟨"ListedAt", .counter op.listedAt⟩,
    ⟨"ExpiredAt", .counter op.expiredAt⟩,
    ⟨"TreasuryRate", .rate op.treasuryRate⟩]

/-- The terms of an offer that the second revision adds. -/
def Offer.laterFields (op : Offer) : Table :=
  [⟨"ChanelAccountIndex", .accountIndex op.channelAccount⟩,
    ⟨"ChanelRate", .rate op.channelRate⟩,
    ⟨"ProtocolRate", .rate op.protocolRate⟩,
    ⟨"ProtocolAmount", .amount op.protocolAmount⟩,
    ⟨"RoyaltyRate", .rate op.royaltyRate⟩]

/-- The table of an offer. -/
def Offer.table (revision : Revision) (op : Offer) : Table :=
  match revision with
  | .v1 => op.baseFields
  | .v2 => op.baseFields ++ op.laterFields

/-- The digest of an offer. -/
def Offer.digest (revision : Revision) (op : Offer) : Except WalletError Bytes32 :=
  SignBody.digest <$> (op.table revision).signBody

/-- The signature of an offer inside a match, which must be there. -/
def Signed.offerSig (name : String) (offer : Signed Offer) :
    Except InvalidInput Eddsa.Signature :=
  match offer.sig with
  | some sig => .ok sig
  | none => .error ⟨name, .unsignedOffer⟩

/-- The table of a match. -/
def AtomicMatch.table (revision : Revision) (op : AtomicMatch) : Except WalletError Table := do
  let buySig ← op.buy.offerSig "BuyOffer.Sig"
  let sellSig ← op.sell.offerSig "SellOffer.Sig"
  let buy ← op.buy.content.digest revision
  let sell ← op.sell.content.digest revision
  pure <|
    [kindField .atomicMatch,
      ⟨"AccountIndex", .accountIndex op.account⟩,
      ⟨"BuyOffer", .hash buy⟩,
      ⟨"BuyOffer.Sig", .blob buySig.toBytes⟩,
      ⟨"SellOffer", .hash sell⟩,
      ⟨"SellOffer.Sig", .blob sellSig.toBytes⟩] ++
    op.envelope.feeFields ++
    op.envelope.closingFields

/-- The table of a cancellation. -/
def CancelOffer.table (op : CancelOffer) : Table :=
  [kindField .cancelOffer,
    ⟨"AccountIndex", .accountIndex op.account⟩,
    ⟨"OfferId", .offerId op.offer⟩] ++
  op.envelope.feeFields ++
  op.envelope.closingFields

/-- The table of a change of key. -/
def ChangePubKey.table (op : ChangePubKey) : Table :=
  [kindField .changePubKey,
    ⟨"AccountIndex", .accountIndex op.account⟩,
    ⟨"L1Address", .address op.owner⟩,
    ⟨"PubKeyX", .hash op.keyX⟩,
    ⟨"PubKeyY", .hash op.keyY⟩] ++
  op.envelope.feeFields ++
  op.envelope.closingFields

/-- The fields of an update of an NFT whose ranges are checked, though it is never hashed. -/
def UpdateNft.fields (op : UpdateNft) : Table :=
  [⟨"NftIndex", .nftIndex op.nft⟩, ⟨"AccountIndex", .accountIndex op.account⟩,
    ⟨"Nonce", .counter op.nonce⟩]

namespace Operation

/-- The table of an operation. -/
def table (revision : Revision) : Operation → Except WalletError Table
  | changePubKey op => .ok op.table
  | transfer op => .ok op.table
  | withdraw op => .ok op.table
  | createCollection op => .ok op.table
  | mintNft op => .ok op.table
  | transferNft op => .ok op.table
  | atomicMatch op => op.table revision
  | cancelOffer op => .ok op.table
  | withdrawNft op => .ok op.table
  | offer op => .ok (op.table revision)

end Operation

end RollupWallet
