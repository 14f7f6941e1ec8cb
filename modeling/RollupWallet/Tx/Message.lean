import RollupWallet.Digest
import RollupWallet.Tx.Operation

/-!
# Texts that layer-1 keys sign

A change of key and an offer each have a text for people, which the layer-1 owner signs as a
personal message.
-/

namespace RollupWallet

/-- The line that closes every text. -/
def trustNotice : String := "Only sign this message for a trusted client!"

/-- The text of a change of key. -/
def changePubKeyMessage (keyX keyY : Bytes32) (nonce account : Int64) : String :=
  s!"Register zkBNB Account\n\npubkeyX: 0x{keyX.hex}\npubkeyY: 0x{keyY.hex}\n" ++
  s!"nonce: {nonce.toInt}\naccount index: {account.toInt}\n\n{trustNotice}"

/-- The text of a change of key, given as an operation. -/
def ChangePubKey.message (op : ChangePubKey) : String :=
  changePubKeyMessage op.keyX op.keyY op.envelope.nonce op.account

/-- The word for a side in a text. -/
def OfferSide.word : OfferSide → String
  | .buy => "buy"
  | .sell => "sell"

/-- The text of an offer. -/
def Offer.message (op : Offer) : String :=
  s!"Offer NFT\n\ntype: {op.side.word}\noffer id: {op.id.toInt}\n" ++
  s!"account index: {op.account.toInt}\nnft index: {op.nft.toInt}\n" ++
  s!"asset id: {op.asset.toInt}\nasset amount: {op.amount}\nlisted at: {op.listedAt.toInt}\n" ++
  s!"expired at: {op.expiredAt.toInt}\ntreasury rate: {op.treasuryRate.toInt}\n\n{trustNotice}"

end RollupWallet
