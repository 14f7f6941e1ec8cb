import RollupWallet.Amount.Packed
import RollupWallet.Error.Basic
import RollupWallet.Hash.Mimc

/-!
# Tables of hashed fields

What is hashed of a transaction is a table: named fields in a fixed order, each with a meaning that
settles its range and its form as a field element. Encoding a table checks every range, and the
digest of a table is the digest of its elements in their order.
-/

namespace RollupWallet

/-- A value by its meaning. -/
inductive FieldValue where
  | kind (value : TxKind)
  | accountIndex (value : Int64)
  | assetId (value : Int64)
  | nftIndex (value : Int64)
  | offerId (value : Int64)
  | collectionId (value : Int64)
  /-- A time or a counter. -/
  | counter (value : Int64)
  /-- A rate in hundredths of a percent. -/
  | rate (value : Int64)
  /-- An amount, which is hashed in packed form. -/
  | amount (value : Nat)
  | hash (value : Bytes32)
  | flag (value : Bool)
  | address (value : Address)
  /-- Bytes of any length, which are hashed on their own. -/
  | blob (value : Bytes)
deriving DecidableEq

/-- A field of a table. Fields of a nested offer have its name and a full stop in front. -/
structure Field where
  name : String
  value : FieldValue
deriving DecidableEq

/-- The fields that are hashed, in their order. -/
abbrev Table := List Field

/-- What a signer is given: the elements of a table and their digest, which is signed. -/
structure SignBody where
  elements : List Bytes32
  digest : Bytes32
deriving DecidableEq

/-- The bytes that a signer signs. -/
def SignBody.message (body : SignBody) : Bytes := body.digest.bytes

/-- All elements in a row. -/
def SignBody.toBytes (body : SignBody) : Bytes := body.elements.flatMap (·.bytes)

/-- The rate of one hundred percent. -/
def rateBase : Nat := 10000

namespace FieldValue

/-- The name of a meaning. -/
def meaning : FieldValue → String
  | kind _ => "TxType"
  | accountIndex _ => "AccountIndex"
  | assetId _ => "AssetId"
  | nftIndex _ => "NftIndex"
  | offerId _ => "OfferId"
  | collectionId _ => "CollectionId"
  | counter _ => "Int64"
  | rate _ => "Rate"
  | amount _ => "Packed"
  | hash _ => "Hash"
  | flag _ => "Bool"
  | address _ => "Address"
  | blob _ => "Blob"

/-- The element of a natural number. -/
def word (n : Nat) : Bytes32 := FixedBytes.ofNat 32 n

/-- The element of an integer that must not be negative. -/
def nonNegative (name : String) (value : Int64) : Except InvalidInput Nat :=
  if value < 0 then .error ⟨name, .negative value.toInt⟩ else .ok value.toInt.toNat

/-- The element of an integer that must fit in some bits. -/
def bounded (bits : Nat) (name : String) (value : Int64) : Except InvalidInput Bytes32 := do
  let n ← nonNegative name value
  if Nat.pow 2 bits ≤ n then throw ⟨name, .tooWide value.toInt bits⟩ else pure (word n)

/-- Whether a rate lies between zero and one hundred percent. -/
def isRate (value : Int64) : Bool := 0 ≤ value.toInt && value.toInt ≤ rateBase

/-- The element of a value, if it is in range. -/
def encode (name : String) : FieldValue → Except InvalidInput Bytes32
  | kind value => .ok (word value.tag)
  | accountIndex value => bounded 32 name value
  | assetId value => bounded 16 name value
  | nftIndex value => bounded 40 name value
  | offerId value => bounded 24 name value
  | collectionId value => bounded 16 name value
  | counter value => word <$> nonNegative name value
  | rate value =>
    if isRate value then .ok (word value.toInt.toNat)
    else .error ⟨name, .rateOutOfRange value.toInt rateBase⟩
  | amount value => do
    let packed ← PackedAmount.pack name value
    match Felt.ofNat? packed.toNat with
    | some x => pure x.toBytes32
    | none => throw ⟨name, .packedNotCanonical⟩
  | hash value => if value.isCanonical then .ok value else .error ⟨name, .notCanonical⟩
  | flag value => .ok (word value.toNat)
  | address value => .ok (word value.toNat)
  | blob value => .ok (Hash.mimc value)

end FieldValue

namespace Table

/-- The elements of a table. The first field out of range is reported. -/
def encode (table : Table) : Except InvalidInput (List Bytes32) :=
  table.mapM fun field => field.value.encode field.name

/-- The elements of a table and their digest. -/
def signBody (table : Table) : Except WalletError SignBody := do
  let elements ← table.encode
  match elements.foldlM Hash.Sponge.writeElement? Hash.Sponge.empty with
  | some sponge => pure ⟨elements, sponge.digest⟩
  | none => throw (.crypto .invalidField)

end Table

end RollupWallet
