import RollupWallet.Client.Submission
import RollupWallet.Signing

/-!
# Sending transactions

A client fills in what the options of a request leave open, has the operation signed, checks the
signature and posts the transaction. Nothing is posted whose signature has not been checked under a
known key; an update of an NFT, which has none, is the one exception.
-/

namespace RollupWallet

open Eddsa

/-- A client of one rollup at one time. -/
structure Client where
  api : Api
  revision : Revision
  /-- The clock. It stands still during a call, so one reading of it stands for all that are taken
  while a transaction is built, checked and posted. -/
  now : Int64
  /-- How often a post that does not get through is tried again. -/
  retries : Nat
deriving DecidableEq

namespace Client

/-- The context in which transactions are checked. -/
def context (client : Client) : Context := ⟨client.now, client.revision⟩

/-- The value that is given, or else the one that is asked for. -/
def settle {α : Type} (given : Option α) (question : Online α) : Online α :=
  match given with
  | some value => pure value
  | none => question

/-- What stands in for the parts of the envelope that the options leave open. Nothing is asked for
that they settle. -/
def envelopeDefaults (client : Client) (kind : TxKind) (options : RequestOptions) :
    Online EnvelopeDefaults := do
  let gasAccount ← settle options.gasAccount (GasAccount.index <$> client.api.gasAccount)
  let gasAmount ← settle options.gasAmount
    (client.api.gasFee (options.gasAsset.getD defaultGasAsset) kind)
  let nonce ← settle options.nonce (client.api.nextNonce options.fromAccount)
  return { gasAccount, gasAmount, nonce, now := client.now }

/-- Fills in the receiver's account and the hash of the receiver's name, as far as they are open.
Beside the outcome stand the options as they are after it: an account that was found stays, also
where the name turns out to have no hash. -/
def resolveReceiver (client : Client) (name : String) (options : RequestOptions) :
    Exchange (RequestOptions × Except WalletError Unit) := do
  let found ← (settle (options.toAccount) (Account.index <$> client.api.account .name name)).run
  match found with
  | .error error => return (options, .error error)
  | .ok account =>
    let options := { options with toAccount := some account }
    match options.receiverHash name with
    | .error error => return (options, .error (.invalidInput error))
    | .ok hash => return ({ options with toNameHash := some hash }, .ok ())

/-- The key under which a signer's signatures are checked, which must be known. -/
def signerKey (signer : Signer) : Except WalletError PublicKey :=
  match signer.publicKey with
  | some key => .ok key
  | none => .error (.invalidInput ⟨"signer", .signerKeyUnknown⟩)

/-- Posts a transaction after checking its signature under a key. -/
def submitSigned (client : Client) (tx : Tx) (key : PublicKey) : Online SubmitResponse := do
  tx.verify client.revision key
  client.api.submit client.retries tx.content.kind tx.toJson

/-- Builds, signs and posts what a request asks for. -/
def send (client : Client) (signer : Signer) (request : Request) (options : RequestOptions) :
    Online SubmitResponse := do
  let key ← signerKey signer
  let defaults ← client.envelopeDefaults request.kind options
  let assembler : Assembler := ⟨client.context, some signer⟩
  let tx ← assembler.signRequest request options defaults
  client.submitSigned tx key

/-- Opens a collection under the id after the greatest one that the account has used, unless the
request gives one. The id after the greatest of all wraps round to the least. -/
def createCollection (client : Client) (signer : Signer) (request : CreateCollectionRequest)
    (options : RequestOptions) : Online SubmitResponse := do
  let collection ← settle request.collection
    ((· + 1) <$> client.api.maxCollectionId options.fromAccount)
  client.send signer (.createCollection { request with collection := some collection }) options

/-- The key of an account. -/
def accountKey (client : Client) (account : Int64) : Online PublicKey := do
  let found ← client.api.account .index (toString account.toInt)
  found.key

/-- Signs a match, after checking both offers under the keys of their accounts, and posts it. -/
def atomicMatch (client : Client) (signer : Signer) (op : AtomicMatch) :
    Online SubmitResponse := do
  let key ← signerKey signer
  let buyKey ← client.accountKey op.buy.content.account
  let sellKey ← client.accountKey op.sell.content.account
  let assembler : Assembler := ⟨client.context, some signer⟩
  let tx ← assembler.signMatch op buyKey sellKey
  client.submitSigned tx key

/-- Posts an update of an NFT, which carries no signature. -/
def updateNft (client : Client) (request : UpdateNftRequest) (options : RequestOptions) :
    Online SubmitResponse := do
  let nonce ← settle options.nonce (client.api.nextNonce options.fromAccount)
  let op := request.build options { gasAccount := 0, gasAmount := 0, nonce, now := client.now }
  let text ← op.encode
  client.api.submit client.retries .updateNft text

end Client

end RollupWallet
