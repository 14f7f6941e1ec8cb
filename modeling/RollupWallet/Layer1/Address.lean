import RollupWallet.Hash.Keccak
import RollupWallet.Text.Hex

/-!
# Layer-1 addresses as text

An address is written as forty digits after `0x`, which a reader does not insist on. The
checksummed form carries a check in the case of its letters: a letter is upper-case where the digest
of the plain digits has a high digit. Reading takes letters of either case and leaves the check
aside.
-/

namespace RollupWallet.Address

/-- An address in plain digits. -/
def text (address : Address) : String := "0x" ++ Text.Hex.text address.bytes

/-- The address that a text writes, with or without a mark. -/
def ofText? (text : String) : Option Address :=
  match Text.Hex.decode (Text.Hex.stripAnyMark (Text.utf8 text)) with
  | .ok bytes => FixedBytes.ofBytes? 20 bytes
  | .error _ => none

/-- A digit of an address, in upper case if the digit of the digest beside it is eight or more. -/
def checksumDigit (digit digest : UInt8) : UInt8 :=
  if 97 ≤ digit && 8 ≤ (Text.Hex.value? digest).getD 0 then digit - 32 else digit

/-- The checksummed form of an address. -/
def checksummed (address : Address) : String :=
  let digits := Text.Hex.encode address.bytes
  let digest := Text.Hex.encode (Hash.keccak256 digits).bytes
  "0x" ++ Text.ofAscii (List.zipWith checksumDigit digits digest)

end RollupWallet.Address
