import RollupWallet.CommandLine.Grammar
import RollupWallet.Config

/-!
# Commands

What can be asked for on the command line, and how it is read. The flags of the configuration stand
before the command.
-/

namespace RollupWallet.CommandLine

/-- What building and signing a transaction takes. -/
structure SignArguments where
  kind : TxKind
  /-- The request and its options, as JSON texts. -/
  request : String
  options : String
  seed : Option String
  /-- What stands in for the parts of the envelope that the options leave open. -/
  gasAccount : Int64
  gasFee : String
  nonce : Int64
deriving DecidableEq

/-- What checking a signature takes. -/
structure VerifyArguments where
  tag : Nat
  tx : String
  publicKey : String
deriving DecidableEq

/-- A command. -/
inductive Command where
  | seed (layer1Key : String)
  | nameHash (name : String)
  | contentHash (content : String)
  | pack (amount : String)
  | signBody (arguments : SignArguments)
  | sign (arguments : SignArguments)
  | verify (arguments : VerifyArguments)
  | submit (arguments : SignArguments)
deriving DecidableEq

/-! ### Grammars -/

/-- The kinds of transactions that can be built on the command line. -/
def buildableKinds : List (String × TxKind) :=
  [("transfer", .transfer), ("withdraw", .withdraw), ("transfer-nft", .transferNft),
    ("withdraw-nft", .withdrawNft), ("cancel-offer", .cancelOffer)]

/-- The form of a signed word of 64 bits. -/
def Form.int64 : Form := .integer Int64.minValue.toInt (Int64.maxValue.toInt + 1)

/-- The options before the command. -/
def configGrammar : Grammar where
  options :=
    [⟨"config", none, some .text, none⟩, ⟨"chain-id", none, some (.natural UInt64.size), none⟩,
      ⟨"api-url", none, some .text, none⟩, ⟨"l1-rpc-url", none, some .text, none⟩,
      ⟨"l1-contract", none, some .address, none⟩, ⟨"legacy-offers", none, none, none⟩]
  takesArgument := false
  commands :=
    ["seed", "name-hash", "content-hash", "pack", "sign-body", "sign", "verify", "submit", "help"]

/-- The options of the command that derives a seed. -/
def seedGrammar : Grammar where
  options := [⟨"l1-key", none, some .text, some "L1_PRIVATE_KEY"⟩]
  takesArgument := false
  commands := []

/-- A command with one argument. -/
def argumentGrammar : Grammar where
  options := []
  takesArgument := true
  commands := []

/-- The options of the commands that build a transaction. -/
def signGrammar : Grammar where
  options :=
    [⟨"kind", some 'k', some (.kind buildableKinds), none⟩,
      ⟨"request", some 'r', some .text, none⟩, ⟨"opts", some 'o', some .text, none⟩,
      ⟨"seed", none, some .text, some "L2_SEED"⟩,
      ⟨"gas-account-index", none, some .int64, none⟩, ⟨"gas-fee", none, some .text, none⟩,
      ⟨"nonce", none, some .int64, none⟩]
  takesArgument := false
  commands := []

/-- The options of the command that checks a signature. -/
def verifyGrammar : Grammar where
  options :=
    [⟨"tx-type", some 't', some (.integer 0 256), none⟩, ⟨"tx-json", some 'j', some .text, none⟩,
      ⟨"public-key", some 'p', some .text, none⟩]
  takesArgument := false
  commands := []

/-! ### Reading -/

namespace Reading

/-- The flags of the configuration. -/
def configFlags (reading : Reading) : ConfigFlags where
  file := reading.text? "config"
  chainId := (reading.integer? "chain-id").map Int.toNat
  apiUrl := reading.text? "api-url"
  layer1RpcUrl := reading.text? "l1-rpc-url"
  contract := reading.address? "l1-contract"
  legacyOffers := reading.has "legacy-offers"

/-- What building a transaction takes. -/
def signArguments (reading : Reading) : Except UsageFault SignArguments := do
  return {
    kind := ← required (reading.kind? "kind")
    request := ← required (reading.text? "request")
    options := ← required (reading.text? "opts")
    seed := reading.text? "seed"
    gasAccount := ((reading.integer? "gas-account-index").map Int64.ofInt).getD 1
    gasFee := (reading.text? "gas-fee").getD "0"
    nonce := ((reading.integer? "nonce").map Int64.ofInt).getD 0 }

/-- What checking a signature takes. -/
def verifyArguments (reading : Reading) : Except UsageFault VerifyArguments := do
  return {
    tag := (← required (reading.integer? "tx-type")).toNat
    tx := ← required (reading.text? "tx-json")
    publicKey := ← required (reading.text? "public-key") }

end Reading

/-- Reads the words of a command that has no commands below it. -/
def Grammar.read (grammar : Grammar) (getVariable : String → Option String) (words : List String) :
    Except UsageFault Reading := do
  let (reading, _) ← Reading.empty.words grammar false words
  let reading ← reading.settle
  reading.takeVariables getVariable grammar.options

/-- Reads the wish for help with a command: nothing or the name of one command follows it. -/
def readHelp (words : List String) : UsageFault :=
  match words with
  | [] => .displayHelp
  | [name] => if configGrammar.commands.contains name then .displayHelp else .invalidSubcommand
  | _ => .invalidSubcommand

/-- Reads a command whose name has been read. -/
def Command.read (getVariable : String → Option String) (name : String) (words : List String) :
    Except UsageFault Command := do
  let argument : Except UsageFault String := do
    let reading ← argumentGrammar.read getVariable words
    required reading.argument
  match name with
  | "seed" =>
    let reading ← seedGrammar.read getVariable words
    return .seed (← required (reading.text? "l1-key"))
  | "name-hash" => return .nameHash (← argument)
  | "content-hash" => return .contentHash (← argument)
  | "pack" => return .pack (← argument)
  | "sign-body" => return .signBody (← (← signGrammar.read getVariable words).signArguments)
  | "sign" => return .sign (← (← signGrammar.read getVariable words).signArguments)
  | "verify" => return .verify (← (← verifyGrammar.read getVariable words).verifyArguments)
  | "submit" => return .submit (← (← signGrammar.read getVariable words).signArguments)
  | _ => throw (readHelp words)

/-- Reads a command line, given the variables of the environment. The option before the command is
judged after the command. -/
def parse (getVariable : String → Option String) (words : List String) :
    Except UsageFault (ConfigFlags × Command) := do
  match ← Reading.empty.words configGrammar false words with
  | (reading, some (name, rest)) =>
    let command ← Command.read getVariable name rest
    let reading ← reading.settle
    return (reading.configFlags, command)
  | (reading, none) =>
    let reading ← reading.settle
    if reading = .empty then throw .displayHelpOnMissing else throw .missingSubcommand

end RollupWallet.CommandLine
