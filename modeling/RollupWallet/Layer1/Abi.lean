import RollupWallet.Hash.Keccak
import RollupWallet.Text.Utf8

/-!
# Contract calls as bytes

A call begins with four bytes of the digest of the method's signature. Its arguments follow as
words of 32 bytes; where an argument has no fixed length, the word says where, counted from the
first word, its length and its bytes stand, filled up to whole words.
-/

namespace RollupWallet.Layer1

/-- An argument of a call. -/
inductive AbiValue where
  /-- A number, an address or 32 bytes. -/
  | word (value : Bytes32)
  /-- Bytes of any length. -/
  | bytes (value : Bytes)
deriving DecidableEq

namespace AbiValue

/-- The word of a number. -/
def ofNat (n : Nat) : AbiValue := .word (.ofNat 32 n)

/-- The word of an address. -/
def ofAddress (address : Address) : AbiValue := .ofNat address.toNat

/-- The bytes of a string. -/
def ofString (s : String) : AbiValue := .bytes (Text.utf8 s)

end AbiValue

namespace Abi

/-- Bytes of any length: their number, and they themselves filled up by zeros. -/
def dynamic (value : Bytes) : Bytes :=
  Bytes.ofNat 32 value.length ++ Bytes.padRight ((value.length + 31) / 32 * 32) value

/-- The words of arguments and the bytes that they point to, the first of which stand at
`offset`. -/
def parts : (offset : Nat) → List AbiValue → Bytes × Bytes
  | _, [] => ([], [])
  | offset, .word value :: rest =>
    let (words, tail) := parts offset rest
    (value.bytes ++ words, tail)
  | offset, .bytes value :: rest =>
    let (words, tail) := parts (offset + (dynamic value).length) rest
    (Bytes.ofNat 32 offset ++ words, dynamic value ++ tail)

/-- The bytes of arguments. -/
def arguments (values : List AbiValue) : Bytes :=
  let (words, tail) := parts (32 * values.length) values
  words ++ tail

/-- The bytes that stand for a method. -/
def selector (signature : String) : Bytes :=
  (Hash.keccak256 (Text.utf8 signature)).bytes.take 4

end Abi

end RollupWallet.Layer1
