import RollupWallet.Client.Basic
import RollupWallet.CommandLine.Command
import RollupWallet.Layer1.Address
import RollupWallet.Request.Wire

/-!
# Running commands

A command yields the text that it prints, or the reason why it prints none. Only `submit` sends
anything; all other commands work without a network.
-/

namespace RollupWallet.CommandLine

/-- Why a command fails. -/
inductive CommandFault where
  | library (error : WalletError)
  | seedMissing
  | chainMissing
  | badRequest
  | badOptions
  | badAmount
  | badGasFee
  | badKeyHex (fault : Text.HexFault)
  | badKeyLength
deriving DecidableEq

namespace CommandFault

/-- The wording of a fault, where it is settled. -/
def message? : CommandFault → Option String
  | library error => error.message?
  | seedMissing => some "--seed is required to sign"
  | chainMissing => some "--chain-id is required"
  | badRequest => some "invalid request JSON"
  | badOptions => some "invalid envelope JSON"
  | badAmount => some "amount is not a decimal integer"
  | badGasFee => some "gas fee is not a decimal integer"
  | badKeyHex fault => some fault.message
  | badKeyLength => some "public key must be 32 bytes"

instance {ε : Type} [MonadLift (Except ε) (Except WalletError)] :
    MonadLift (Except ε) (Except CommandFault) where
  monadLift result := (monadLift result : Except WalletError _).mapError library

instance : MonadLift (Except WalletError) (Except CommandFault) where
  monadLift result := result.mapError library

end CommandFault

/-- What a command finds around it. -/
structure Surroundings where
  now : Int64
  fileText : String → Option String
  flags : ConfigFlags

/-- Lines, each with its end. -/
def lines (texts : List String) : String := String.join (texts.map (· ++ "\n"))

/-- An amount in decimal text. -/
def amount (text : String) (fault : CommandFault) : Except CommandFault Nat :=
  match Text.Decimal.lenient? (Text.utf8 text) with
  | some n => .ok n
  | none => .error fault

/-- A number in at least ten hexadecimal digits after `0x`. -/
def bitsText (n : Nat) : String :=
  let digits := (Nat.toDigits 16 n)
  "0x" ++ String.ofList (List.replicate (10 - digits.length) '0' ++ digits)

/-- Prints the address of a layer-1 key, and the seed and the layer-2 key that belong to it. -/
def runSeed (flags : ConfigFlags) (keyText : String) : Except CommandFault String := do
  let some chainId := flags.chainId | throw .chainMissing
  let key ← Layer1.Key.ofHex keyText
  let seed ← key.seed chainId
  let publicKey := (← key.layer2Key chainId).publicKey
  return lines
    [s!"l1 address: {key.address.checksummed}",
      s!"seed:       {seed}",
      s!"pubkey x:   0x{publicKey.x.hex}",
      s!"pubkey y:   0x{publicKey.y.hex}",
      s!"compressed: {publicKey.compressed.hex}"]

/-- Prints the packed form of an amount. -/
def runPack (text : String) : Except CommandFault String := do
  let n ← amount text .badAmount
  let packed ← PackedAmount.pack "amount" n
  return lines
    [s!"normalized: {packed.toNat}",
      s!"mantissa:   {packed.mantissa}",
      s!"exponent:   {packed.exponent}",
      s!"bits:       {bitsText packed.toBits}"]

namespace SignArguments

/-- The layer-2 key of the seed, which must be given. -/
def key (arguments : SignArguments) : Except CommandFault Eddsa.SecretKey := do
  let some seed := arguments.seed | throw .seedMissing
  Eddsa.SecretKey.ofSeed seed

/-- The request. -/
def readRequest (arguments : SignArguments) : Except CommandFault Request :=
  (Request.ofJson arguments.kind (Text.utf8 arguments.request)).mapError fun _ => .badRequest

/-- The options of the request. -/
def readOptions (arguments : SignArguments) : Except CommandFault RequestOptions :=
  (RequestOptions.codec.ofText (Text.utf8 arguments.options)).mapError fun _ => .badOptions

/-- The operation that the request asks for. -/
def build (now : Int64) (arguments : SignArguments) : Except CommandFault Operation := do
  let request ← arguments.readRequest
  let options ← arguments.readOptions
  let gasAmount ← amount arguments.gasFee .badGasFee
  request.build options
    { gasAccount := arguments.gasAccount, gasAmount, nonce := arguments.nonce, now }

end SignArguments

/-- The context of what a command checks. -/
def Surroundings.context (around : Surroundings) : Context := ⟨around.now, around.flags.revision⟩

/-- Prints what is signed of an operation: the digest, and the elements it is the digest of. -/
def runSignBody (around : Surroundings) (arguments : SignArguments) :
    Except CommandFault String := do
  let op ← arguments.build around.now
  let body ← op.signBody around.context
  return lines (s!"digest: {body.digest.hex}" :: body.elements.map fun element =>
    s!"  {element.hex}")

/-- Builds, signs and prints a transaction. -/
def runSign (around : Surroundings) (arguments : SignArguments) : Except CommandFault String := do
  let key ← arguments.key
  let op ← arguments.build around.now
  let assembler : Assembler := ⟨around.context, some (.ofKey key)⟩
  let text ← assembler.signJson op
  return lines [Text.ofUtf8Lossy text]

/-- Checks the signature of a transaction under a key. -/
def runVerify (around : Surroundings) (arguments : VerifyArguments) :
    Except CommandFault String := do
  let some kind := TxKind.ofTag? arguments.tag
    | throw (.library (.invalidInput ⟨"tx_type", .unknownKind arguments.tag⟩))
  let tx ← Tx.ofJson kind (Text.utf8 arguments.tx)
  let bytes ← (Text.Hex.decode (Text.Hex.stripMarks (Text.utf8 arguments.publicKey))).mapError
    CommandFault.badKeyHex
  let some word := FixedBytes.ofBytes? 32 bytes | throw .badKeyLength
  let key ← Eddsa.PublicKey.ofCompressed word
  tx.verify around.context.revision key
  return lines [s!"valid: {kind.name} signed by {arguments.publicKey}"]

/-- The name of the receiver whose account must be known before the request can be built. -/
def receiverName? : Request → Option String
  | .transfer request => some request.toName
  | .transferNft request => some request.toName
  | _ => none

/-- How often a post that does not get through is tried again. -/
def submitRetries : Nat := 3

/-- Builds, signs and submits a transaction, and prints its hash. -/
def runSubmit (around : Surroundings) (arguments : SignArguments) :
    ExceptT CommandFault Exchange String := do
  let key ← (arguments.key : Except CommandFault _)
  let config ← (around.flags.resolve around.fileText : Except CommandFault _)
  let options ← arguments.readOptions
  let request ← arguments.readRequest
  let client : Client :=
    { api := .ofUrl config.apiUrl, revision := around.flags.revision, now := around.now,
      retries := submitRetries }
  let options ←
    match receiverName? request with
    | none => pure options
    | some name => do
      let (options, outcome) ← (client.resolveReceiver name options : Exchange _)
      let _ ← outcome.mapError CommandFault.library
      pure options
  let response ← ExceptT.adapt CommandFault.library (client.send (.ofKey key) request options)
  return lines [response.txHash.getD ""]

/-- Runs a command. -/
def Command.run (around : Surroundings) : Command → ExceptT CommandFault Exchange String
  | seed layer1Key => runSeed around.flags layer1Key
  | nameHash name => do
    let hash ← ((monadLift (RollupWallet.nameHash name)) : Except CommandFault _)
    return lines [hash.hex]
  | contentHash content => return lines [(RollupWallet.contentHash (Text.utf8 content)).hex]
  | pack text => runPack text
  | signBody arguments => runSignBody around arguments
  | sign arguments => runSign around arguments
  | verify arguments => runVerify around arguments
  | submit arguments => runSubmit around arguments

end RollupWallet.CommandLine
