import RollupWallet.Layer1.Key
import RollupWallet.Text.Url

/-!
# Wallets on layer 1

A wallet is a key and the service through which it reaches layer 1, put up for one contract.
-/

namespace RollupWallet.Layer1

/-- Why a wallet or a call could not be put together. -/
inductive ClientFault where
  | badKey
  | badUrl
  /-- An amount has more bits than the contract takes. -/
  | amountTooWide
deriving DecidableEq, Repr

/-- A key, a service and a contract. -/
structure Wallet where
  key : Key
  rpcUrl : String
  contract : Address
deriving DecidableEq

/-- The key that a text writes: 32 bytes, after any number of marks. -/
def walletKey? (text : String) : Option Key :=
  match Text.Hex.decode (Text.Hex.stripAnyMark (Text.Hex.stripMarks (Text.utf8 text))) with
  | .error _ => none
  | .ok bytes => if bytes.length = 32 then Key.ofSecret? (Bytes.toNat bytes) else none

/-- The wallet of a key at a service. -/
def Wallet.create (keyText rpcUrl : String) (contract : Address) : Except ClientFault Wallet :=
  match walletKey? keyText with
  | none => .error .badKey
  | some key => if Text.Url.isValid rpcUrl then .ok ⟨key, rpcUrl, contract⟩ else .error .badUrl

end RollupWallet.Layer1
