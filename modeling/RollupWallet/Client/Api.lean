import RollupWallet.Client.Http
import RollupWallet.Digest
import RollupWallet.Eddsa
import RollupWallet.Json.Document
import RollupWallet.Json.Record

/-!
# The rollup's read interface

Answers that signing depends on are read into types; the others are passed on as documents.
-/

namespace RollupWallet

open Json

/-! ### Answers -/

/-- An account of the rollup. The key is compressed and in hexadecimal text. -/
structure Account where
  index : Int64
  name : String
  publicKey : String
  layer1Address : String
  nonce : Int64
deriving DecidableEq

namespace Account

/-- An account in JSON. -/
def codec : Codec Account :=
  (Codec.record
    [.required "index" .int64, .required "name" .string, .required "pk" .string,
      .withDefault "l1_address" .string "", .withDefault "nonce" .int64 0]).imap
    (fun (index, name, publicKey, layer1Address, nonce, ()) =>
      ⟨index, name, publicKey, layer1Address, nonce⟩)
    (fun account =>
      (account.index, account.name, account.publicKey, account.layer1Address, account.nonce, ()))

/-- The key of an account. -/
def key (account : Account) : Except WalletError Eddsa.PublicKey := do
  match Text.Hex.decode (Text.Hex.stripMarks (Text.utf8 account.publicKey)) with
  | .error flaw => throw (.invalidInput ⟨"pk", .badKeyHex flaw⟩)
  | .ok bytes =>
    match FixedBytes.ofBytes? 32 bytes with
    | none => throw (.invalidInput ⟨"pk", .badKeyLength⟩)
    | some word => Eddsa.PublicKey.ofCompressed word

end Account

/-- The account that collects fees. -/
structure GasAccount where
  index : Int64
  name : String
deriving DecidableEq

/-- The account that collects fees in JSON. -/
def GasAccount.codec : Codec GasAccount :=
  (Codec.record [.required "index" .int64, .withDefault "name" .string ""]).imap
    (fun (index, name, ()) => ⟨index, name⟩)
    (fun account => (account.index, account.name, ()))

/-- A fee, in decimal text. -/
structure GasFee where
  text : String
deriving DecidableEq

namespace GasFee

/-- A fee in JSON. -/
def codec : Codec GasFee :=
  (Codec.record [.required "gas_fee" .string]).imap (fun (text, ()) => ⟨text⟩)
    (fun fee => (fee.text, ()))

/-- The amount of a fee. -/
def amount (fee : GasFee) : Except InvalidInput Nat :=
  match Text.Decimal.lenient? (Text.utf8 fee.text) with
  | some amount => .ok amount
  | none => .error ⟨"gas_fee", .notDecimal fee.text⟩

end GasFee

/-- An asset in which fees may be paid. -/
structure GasAsset where
  id : Int64
  name : String
  symbol : String
deriving DecidableEq

/-- An asset in which fees may be paid in JSON. -/
def GasAsset.codec : Codec GasAsset :=
  (Codec.record
    [.required "id" .int64, .withDefault "name" .string "",
      .withDefault "symbol" .string ""]).imap
    (fun (id, name, symbol, ()) => ⟨id, name, symbol⟩)
    (fun asset => (asset.id, asset.name, asset.symbol, ()))

/-- Figures about the rollup. -/
structure RollupInfo where
  blocksCommitted : Int64
  blocksVerified : Int64
  transactions : Int64
  contracts : List String
deriving DecidableEq

/-- Figures about the rollup in JSON. -/
def RollupInfo.codec : Codec RollupInfo :=
  (Codec.record
    [.withDefault "block_committed" .int64 0, .withDefault "block_verified" .int64 0,
      .withDefault "total_transaction_count" .int64 0,
      .withDefault "contract_addresses" (.list .string) []]).imap
    (fun (blocksCommitted, blocksVerified, transactions, contracts, ()) =>
      ⟨blocksCommitted, blocksVerified, transactions, contracts⟩)
    (fun info =>
      (info.blocksCommitted, info.blocksVerified, info.transactions, info.contracts, ()))

/-- One number under a name in JSON. -/
def Json.Codec.single (name : String) : Codec Int64 :=
  (Codec.record [.required name .int64]).imap (fun (value, ()) => value) (fun value => (value, ()))

/-! ### Questions -/

/-- What an account is looked up by. -/
inductive AccountBy where
  | name
  | index
  | layer1Address
  | publicKey
deriving DecidableEq, Repr

/-- The word for it in a query. -/
def AccountBy.word : AccountBy → String
  | name => "name"
  | index => "index"
  | layer1Address => "l1_address"
  | publicKey => "pk"

/-- A part of a long list. -/
structure Page where
  offset : Nat
  limit : Nat
deriving DecidableEq

/-- The query for a part of a list. -/
def Page.query (page : Page) : List (String × String) :=
  [("offset", toString page.offset), ("limit", toString page.limit)]

/-- The questions that are answered by documents. -/
inductive Question where
  | block (property value : String)
  | blocks (page : Page)
  | currentHeight
  | tx (hash : String)
  | txs (page : Page)
  | accountTxs (account : Int64) (page : Page)
  | blockTxs (height : Int64)
  | mempoolTxs (page : Page)
  | currencyPrices (page : Page)
  | accountNfts (account : Int64) (page : Page)
  | nftByIndex (nft : Int64)
  | nftByTx (hash : String)
  | pairs (page : Page)
  | liquidityValue (pair : Int64) (amount : String)
  | swapAmount (pair asset : Int64) (amount : String) (isFrom : Bool)
  | search (keyword : String)
deriving DecidableEq

namespace Question

/-- The path of a question. -/
def path : Question → String
  | block _ _ => "/api/v1/block"
  | blocks _ => "/api/v1/blocks"
  | currentHeight => "/api/v1/currentHeight"
  | tx _ => "/api/v1/tx"
  | txs _ => "/api/v1/txs"
  | accountTxs _ _ => "/api/v1/accountTxs"
  | blockTxs _ => "/api/v1/blockTxs"
  | mempoolTxs _ => "/api/v1/mempoolTxs"
  | currencyPrices _ => "/api/v1/currencyPrices"
  | accountNfts _ _ => "/api/v1/accountNfts"
  | nftByIndex _ => "/api/v1/nft"
  | nftByTx _ => "/api/v1/nft"
  | pairs _ => "/api/v1/pairs"
  | liquidityValue _ _ => "/api/v1/lpValue"
  | swapAmount _ _ _ _ => "/api/v1/swapAmount"
  | search _ => "/api/v1/search"

/-- A property and its value. -/
def selection (property value : String) : List (String × String) :=
  [("by", property), ("value", value)]

/-- The query of a question. -/
def query : Question → List (String × String)
  | block property value => selection property value
  | blocks page => page.query
  | currentHeight => []
  | tx hash => [("hash", hash)]
  | txs page => page.query
  | accountTxs account page =>
    page.query ++ selection "account_index" (toString account.toInt)
  | blockTxs height => selection "block_height" (toString height.toInt)
  | mempoolTxs page => page.query
  | currencyPrices page => page.query ++ [("by", "all")]
  | accountNfts account page =>
    page.query ++ selection "account_index" (toString account.toInt)
  | nftByIndex nft => selection "nft_index" (toString nft.toInt)
  | nftByTx hash => selection "tx_hash" hash
  | pairs page => page.query
  | liquidityValue pair amount =>
    [("pair_index", toString pair.toInt), ("lp_amount", amount)]
  | swapAmount pair asset amount isFrom =>
    [("pair_index", toString pair.toInt), ("asset_id", toString asset.toInt),
      ("asset_amount", amount), ("is_from", toString isFrom)]
  | search keyword => [("keyword", keyword)]

end Question

/-- The rollup's interface at an address without a slash at its end. -/
structure Api where
  base : String
deriving DecidableEq

namespace Api

/-- The interface at an address, whose slashes at the end do not count. -/
def ofUrl (url : String) : Api :=
  ⟨String.ofList (url.toList.reverse.dropWhile (· = '/')).reverse⟩

/-- Asks for a value. -/
def get {α : Type} (api : Api) (codec : Codec α) (path : String)
    (query : List (String × String)) : Online α :=
  HttpRequest.fetch codec { method := .get, url := api.base ++ path, query, form := [] }

/-- Asks for a document. -/
def ask (api : Api) (question : Question) : Online Json :=
  api.get .document question.path question.query

/-- Looks up an account. -/
def account (api : Api) (property : AccountBy) (value : String) : Online Account :=
  api.get Account.codec "/api/v1/account" [("by", property.word), ("value", value)]

/-- The counter that the next transaction of an account must carry. -/
def nextNonce (api : Api) (account : Int64) : Online Int64 :=
  api.get (.single "nonce") "/api/v1/nextNonce" [("account_index", toString account.toInt)]

/-- The account that collects fees. -/
def gasAccount (api : Api) : Online GasAccount :=
  api.get GasAccount.codec "/api/v1/gasAccount" []

/-- The fee of a kind of transaction in an asset. -/
def gasFee (api : Api) (asset : Int64) (kind : TxKind) : Online Nat := do
  let fee ← api.get GasFee.codec "/api/v1/gasFee"
    [("asset_id", toString asset.toInt), ("tx_type", toString kind.tag)]
  fee.amount

/-- The assets in which fees may be paid. -/
def gasAssets (api : Api) : Online (List GasAsset) :=
  api.get
    ((Codec.record [.required "assets" (.list GasAsset.codec)]).imap (fun (assets, ()) => assets)
      (fun assets => (assets, ())))
    "/api/v1/gasFeeAssets" []

/-- The fee of a withdrawal in an asset. -/
def withdrawGasFee (api : Api) (asset : Int64) : Online Nat := do
  let fee ← api.get GasFee.codec "/api/v1/withdrawGasFee" [("asset_id", toString asset.toInt)]
  fee.amount

/-- The greatest offer id that an account has used. -/
def maxOfferId (api : Api) (account : Int64) : Online Int64 :=
  api.get (.single "offer_id") "/api/v1/maxOfferId" [("account_index", toString account.toInt)]

/-- The greatest collection id that an account has used. -/
def maxCollectionId (api : Api) (account : Int64) : Online Int64 :=
  api.get (.single "collection_id") "/api/v1/maxCollectionId"
    [("account_index", toString account.toInt)]

/-- The protocol's share of trades. -/
def protocolRate (api : Api) : Online Int64 :=
  api.get (.single "protocol_rate") "/api/v1/protocolRate" []

/-- Figures about the rollup. -/
def info (api : Api) : Online RollupInfo :=
  api.get RollupInfo.codec "/api/v1/layer2BasicInfo" []

end Api

end RollupWallet
