import RollupWallet.Eddsa
import RollupWallet.Layer1.Abi

/-!
# The rollup's contract

The calls that register accounts, deposit, force exits and manage pairs. Arguments have the widths
that the contract declares.
-/

namespace RollupWallet.Layer1

/-- A call of the contract. -/
inductive ContractCall where
  | registerZns (name : String) (owner : Address) (key : Eddsa.PublicKey)
  | depositBnb (name : String)
  | depositBep20 (token : Address) (amount : BitVec 104) (name : String)
  | depositNft (name : String) (token : Address) (tokenId : BitVec 256)
  | requestFullExit (name : String) (asset : Address)
  | requestFullExitNft (name : String) (nft : UInt32)
  | createPair (tokenA tokenB : Address)
  | updatePairRate (tokenA tokenB : Address) (feeRate : UInt16) (treasuryAccount : UInt32)
      (treasuryRate : UInt16)
deriving DecidableEq

namespace ContractCall

/-- The deposit of an amount of a token, if the amount has no more than 104 bits. -/
def depositBep20? (token : Address) (amount : Nat) (name : String) : Option ContractCall :=
  if amount < Nat.pow 2 104 then some (.depositBep20 token (.ofNat 104 amount) name) else none

/-- The signature of the method that is called. -/
def signature : ContractCall → String
  | registerZns .. => "registerZNS(string,address,bytes32,bytes32)"
  | depositBnb .. => "depositBNB(string)"
  | depositBep20 .. => "depositBEP20(address,uint104,string)"
  | depositNft .. => "depositNft(string,address,uint256)"
  | requestFullExit .. => "requestFullExit(string,address)"
  | requestFullExitNft .. => "requestFullExitNft(string,uint32)"
  | createPair .. => "createPair(address,address)"
  | updatePairRate .. => "updatePairRate((address,address,uint16,uint32,uint16))"

/-- The arguments in the order of the method's declaration. -/
def arguments : ContractCall → List AbiValue
  | registerZns name owner key =>
    [.ofString name, .ofAddress owner, .word key.x, .word key.y]
  | depositBnb name => [.ofString name]
  | depositBep20 token amount name => [.ofAddress token, .ofNat amount.toNat, .ofString name]
  | depositNft name token tokenId => [.ofString name, .ofAddress token, .ofNat tokenId.toNat]
  | requestFullExit name asset => [.ofString name, .ofAddress asset]
  | requestFullExitNft name nft => [.ofString name, .ofNat nft.toNat]
  | createPair tokenA tokenB => [.ofAddress tokenA, .ofAddress tokenB]
  | updatePairRate tokenA tokenB feeRate treasuryAccount treasuryRate =>
    [.ofAddress tokenA, .ofAddress tokenB, .ofNat feeRate.toNat, .ofNat treasuryAccount.toNat,
      .ofNat treasuryRate.toNat]

/-- The bytes of a call. -/
def calldata (call : ContractCall) : Bytes :=
  Abi.selector call.signature ++ Abi.arguments call.arguments

end ContractCall

end RollupWallet.Layer1
