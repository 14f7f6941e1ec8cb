import RollupWallet.Error.InvalidInput
import RollupWallet.Field
import RollupWallet.Hash.Keccak

/-!
# Names and content

An account is named by a label and a base with a full stop between them. Its name hash is a chain
of two digests, base first, each reduced into the field; the hash of an NFT's content is one
digest, reduced in the same way.
-/

namespace RollupWallet

/-- The digest of bytes, reduced into the field. -/
def contentHash (content : Bytes) : Bytes32 := reduceToBytes32 (Hash.keccak256 content).bytes

/-- A name in two parts, neither of them empty. -/
structure AccountName where
  label : Bytes
  base : Bytes
deriving DecidableEq

namespace AccountName

/-- The byte between label and base. -/
def separator : UInt8 := 46

/-- The two parts of a name with exactly one separator, if neither is empty. -/
def ofBytes? (text : Bytes) : Option AccountName :=
  let label := text.takeWhile (· ≠ separator)
  match text.dropWhile (· ≠ separator) with
  | [] => none
  | _ :: base =>
    if label = [] ∨ base = [] ∨ separator ∈ base then none else some ⟨label, base⟩

/-- The hash of a name: a digest of the hash of its base and its label, as in a tree of names whose
root is zero. -/
def hash (name : AccountName) : Bytes32 :=
  let node (parent : Bytes32) (part : Bytes) : Bytes32 :=
    contentHash (parent.bytes ++ (Hash.keccak256 part).bytes)
  node (node .zero name.base) name.label

end AccountName

/-- The hash of an account's name. -/
def nameHash (name : String) : Except InvalidInput Bytes32 :=
  match AccountName.ofBytes? (Text.utf8 name) with
  | some parts => .ok parts.hash
  | none => .error ⟨"AccountName", .malformedName name⟩

end RollupWallet
