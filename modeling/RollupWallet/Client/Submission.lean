import RollupWallet.Client.Api
import RollupWallet.Tx.Kind

/-!
# Submission

A transaction is posted as a form to the path of its kind. Where one path serves several kinds, the
form names the kind as well. A post that does not get through may be tried again.
-/

namespace RollupWallet

open Json

/-- What the rollup assigns to a transaction it accepts. -/
structure SubmitResponse where
  txHash : Option String
  collection : Option Int64
  nft : Option Int64
deriving DecidableEq

/-- The answer to a submission in JSON. -/
def SubmitResponse.codec : Codec SubmitResponse :=
  (Codec.record
    [.nullable "tx_hash" .string, .nullable "collection_id" .int64,
      .nullable "nft_index" .int64]).imap
    (fun (txHash, collection, nft, ()) => ⟨txHash, collection, nft⟩)
    (fun response => (response.txHash, response.collection, response.nft, ()))

/-- The path that serves all signed kinds without one of their own. -/
def sendTxPath : String := "/api/v1/tx/sendTx"

/-- The path to which a kind is posted. -/
def submitPath (kind : TxKind) : Except WalletError String :=
  match kind with
  | .createCollection => .ok "/api/v1/createCollection"
  | .mintNft => .ok "/api/v1/mintNft"
  | .updateNft => .ok "/api/v1/updateNftByIndex"
  | kind => if kind.isSigned then .ok sendTxPath else .error (.mismatch (.notSubmitted kind))

/-- Sends a request, and again after a failure that allows it, as often as given. -/
def HttpRequest.fetchAgain {α : Type} (codec : Codec α) (request : HttpRequest) :
    (retries : Nat) → Online α
  | 0 => request.fetch codec
  | retries + 1 => tryCatch (request.fetch codec) fun error =>
      if error.isRetryable then request.fetchAgain codec retries else throw error

/-- The form in which a transaction is posted. -/
def submitForm (path : String) (kind : TxKind) (text : String) : List (String × String) :=
  ("tx_info", text) :: if path = sendTxPath then [("tx_type", toString kind.tag)] else []

/-- Posts the text of a transaction. -/
def Api.submit (api : Api) (retries : Nat) (kind : TxKind) (text : Bytes) :
    Online SubmitResponse := do
  let path ← submitPath kind
  if let some flaw := Text.utf8Fault? 0 text then
    throw (.invalidInput ⟨"tx_info", .notUtf8 flaw⟩)
  let form := submitForm path kind (Text.ofUtf8Lossy text)
  let request : HttpRequest := { method := .post, url := api.base ++ path, query := [], form }
  request.fetchAgain SubmitResponse.codec retries

end RollupWallet
