import RollupWallet.Error.Crypto
import RollupWallet.Json.Codec
import RollupWallet.Tx.Kind

/-!
# Errors of the library

One type for all that can go wrong between a request and the rollup's answer. Errors of input, of
keys and of JSON texts become errors of the library wherever they occur.
-/

namespace RollupWallet

/-- Why a transaction is refused on a path that is not made for it. -/
inductive Mismatch where
  /-- An update of an NFT carries no signature. -/
  | updateUnsigned
  /-- The kind is not signed on layer 2. -/
  | notSigned (kind : TxKind)
  /-- The kind is not submitted to the rollup. -/
  | notSubmitted (kind : TxKind)
  /-- A match is signed only on the path that checks its offers. -/
  | uncheckedMatch
deriving DecidableEq

namespace Mismatch

/-- The wording of the refusal. -/
def message : Mismatch → String
  | updateUnsigned => "UpdateNft carries no signature"
  | notSigned kind => s!"{kind.name} is not an L2-signed transaction"
  | notSubmitted kind => s!"{kind.name} cannot be submitted to the rollup"
  | uncheckedMatch => "a match is signed only after both offers verify against their makers' keys"

end Mismatch

/-- Why no configuration could be put together. -/
inductive ConfigFault where
  | missing (name : String)
  /-- The file cannot be read. -/
  | unreadable
  | json (fault : Json.Fault)
deriving DecidableEq

namespace ConfigFault

/-- The wording of the cause, where there is one. -/
def message? : ConfigFault → Option String
  | missing name => some s!"missing {name}"
  | unreadable => none
  | json fault => fault.message?

end ConfigFault

/-- The errors of the library. -/
inductive WalletError where
  | invalidInput (error : InvalidInput)
  | crypto (error : CryptoError)
  | mismatch (cause : Mismatch)
  /-- The rollup answered with a status other than success. -/
  | remote (status : Nat) (body : String)
  /-- The rollup could not be reached. -/
  | transport
  | json (fault : Json.Fault)
  | config (fault : ConfigFault)
deriving DecidableEq

namespace WalletError

/-- The wording of an error, where it is settled by the library. -/
def message? : WalletError → Option String
  | invalidInput error => some error.message
  | crypto error => some s!"crypto error: {error.message}"
  | mismatch cause => some s!"protocol mismatch: {cause.message}"
  | remote status body => some s!"remote error (status {status}): {body}"
  | transport => none
  | json fault => fault.message?.map fun text => s!"error de/serializing transaction: {text}"
  | config fault => fault.message?.map fun text => s!"error loading config: {text}"

/-- Only a failure to reach the rollup is worth another try. -/
def isRetryable : WalletError → Bool
  | transport => true
  | _ => false

instance : MonadLift (Except InvalidInput) (Except WalletError) where
  monadLift result := result.mapError invalidInput

instance : MonadLift (Except CryptoError) (Except WalletError) where
  monadLift result := result.mapError crypto

instance : MonadLift (Except Json.Fault) (Except WalletError) where
  monadLift result := result.mapError json

end WalletError

end RollupWallet
