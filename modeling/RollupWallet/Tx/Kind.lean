/-!
# Kinds of transactions

Every transaction has a kind, and every kind a tag of one byte that is hashed with the transaction
and names its kind on the wire. Four kinds happen on layer 1 only; of the others all but the empty
transaction and the update of an NFT carry a signature.
-/

namespace RollupWallet

/-- The kinds of transactions, in the order of their tags. -/
inductive TxKind where
  | empty
  | changePubKey
  | deposit
  | depositNft
  | transfer
  | withdraw
  | createCollection
  | mintNft
  | transferNft
  | atomicMatch
  | cancelOffer
  | withdrawNft
  | fullExit
  | fullExitNft
  | offer
  | updateNft
deriving DecidableEq, Repr, Inhabited

namespace TxKind

/-- Every kind, in the order of the tags. -/
def all : List TxKind :=
  [empty, changePubKey, deposit, depositNft, transfer, withdraw, createCollection, mintNft,
    transferNft, atomicMatch, cancelOffer, withdrawNft, fullExit, fullExitNft, offer, updateNft]

/-- The tag of a kind. -/
def tag : TxKind → Nat
  | empty => 0
  | changePubKey => 1
  | deposit => 2
  | depositNft => 3
  | transfer => 4
  | withdraw => 5
  | createCollection => 6
  | mintNft => 7
  | transferNft => 8
  | atomicMatch => 9
  | cancelOffer => 10
  | withdrawNft => 11
  | fullExit => 12
  | fullExitNft => 13
  | offer => 14
  | updateNft => 15

/-- The kind that has a tag. -/
def ofTag? (tag : Nat) : Option TxKind := all[tag]?

/-- The name of a kind. -/
def name : TxKind → String
  | empty => "Empty"
  | changePubKey => "ChangePubKey"
  | deposit => "Deposit"
  | depositNft => "DepositNft"
  | transfer => "Transfer"
  | withdraw => "Withdraw"
  | createCollection => "CreateCollection"
  | mintNft => "MintNft"
  | transferNft => "TransferNft"
  | atomicMatch => "AtomicMatch"
  | cancelOffer => "CancelOffer"
  | withdrawNft => "WithdrawNft"
  | fullExit => "FullExit"
  | fullExitNft => "FullExitNft"
  | offer => "Offer"
  | updateNft => "UpdateNft"

/-- Whether a kind is submitted on layer 1 and not to the rollup. -/
def isLayer1Only : TxKind → Bool
  | deposit | depositNft | fullExit | fullExitNft => true
  | _ => false

/-- Whether a kind carries a signature over its digest. -/
def isSigned (kind : TxKind) : Bool :=
  !kind.isLayer1Only && kind != empty && kind != updateNft

theorem ofTag?_tag (kind : TxKind) : ofTag? kind.tag = some kind := by
  cases kind <;> rfl

end TxKind

/-- The side of an offer. -/
inductive OfferSide where
  | buy
  | sell
deriving DecidableEq, Repr, Inhabited

namespace OfferSide

/-- The tag of a side. -/
def tag : OfferSide → Nat
  | buy => 0
  | sell => 1

/-- The side that has a tag. -/
def ofTag? : Nat → Option OfferSide
  | 0 => some buy
  | 1 => some sell
  | _ => none

theorem ofTag?_tag (side : OfferSide) : ofTag? side.tag = some side := by
  cases side <;> rfl

end OfferSide

end RollupWallet
