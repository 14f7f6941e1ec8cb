import RollupWallet.Error.Basic
import RollupWallet.Json.Record
import RollupWallet.Tx.Context
import RollupWallet.Tx.Wire

/-!
# Configuration

A deployment is known by its layer-1 chain, the address of the rollup's interface and the rollup's
contract. It may be read from a file, and flags override what the file says.
-/

namespace RollupWallet

open Json

/-- The addresses and numbers of a deployment. -/
structure ChainConfig where
  chainId : Nat
  apiUrl : String
  layer1RpcUrl : String
  contract : Address
deriving DecidableEq

namespace ChainConfig

/-- A configuration in JSON. -/
def codec : Codec ChainConfig :=
  (Codec.record
    [.required "chain_id" (.below UInt64.size), .required "api_url" .string,
      .required "l1_rpc_url" .string, .required "l1_contract" .address]).imap
    (fun (chainId, apiUrl, layer1RpcUrl, contract, ()) => ⟨chainId, apiUrl, layer1RpcUrl, contract⟩)
    (fun config => (config.chainId, config.apiUrl, config.layer1RpcUrl, config.contract, ()))

/-- Reads the text of a configuration. -/
def ofJson (text : String) : Except WalletError ChainConfig :=
  (codec.ofText (Text.utf8 text)).mapError fun flaw => .config (.json flaw)

/-- The text of a configuration. -/
def toJson (config : ChainConfig) : Bytes := codec.toText config

end ChainConfig

/-- The flags that settle a configuration: a file, and values that override it. -/
structure ConfigFlags where
  file : Option String
  chainId : Option Nat
  apiUrl : Option String
  layer1RpcUrl : Option String
  contract : Option Address
  legacyOffers : Bool
deriving DecidableEq, Inhabited

namespace ConfigFlags

/-- The value of a flag, or of the file, which one of them must give. -/
def pick {α : Type} (name : String) (flag file : Option α) : Except WalletError α :=
  match flag.or file with
  | some value => .ok value
  | none => .error (.config (.missing name))

/-- The configuration that flags settle, given what files hold. -/
def resolve (fileText : String → Option String) (flags : ConfigFlags) :
    Except WalletError ChainConfig := do
  let base ←
    match flags.file with
    | none => pure none
    | some path =>
      match fileText path with
      | none => throw (.config .unreadable)
      | some text => some <$> ChainConfig.ofJson text
  let chainId ← pick "chain id" flags.chainId (base.map (·.chainId))
  let apiUrl ← pick "api url" flags.apiUrl (base.map (·.apiUrl))
  let layer1RpcUrl := (flags.layer1RpcUrl.or (base.map (·.layer1RpcUrl))).getD ""
  let contract := (flags.contract.or (base.map (·.contract))).getD .zero
  return ⟨chainId, apiUrl, layer1RpcUrl, contract⟩

/-- The revision of the protocol that flags ask for. -/
def revision (flags : ConfigFlags) : Revision := if flags.legacyOffers then .v1 else .v2

end ConfigFlags

end RollupWallet
