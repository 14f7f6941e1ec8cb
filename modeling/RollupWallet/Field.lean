import RollupWallet.Bytes.Basic

/-!
# The scalar field

Everything that is hashed or signed is first turned into elements of one prime field. An element
is written as 32 bytes, most significant first; of the byte strings of that length only those
below the modulus are canonical, and `Felt.ofBytes32?` reads no others. Longer or larger strings
enter the field by reduction (`Felt.reduce`).
-/

namespace RollupWallet

/-- The number of elements of the scalar field. -/
def fieldModulus : Nat :=
  21888242871839275222246405745257275088548364400416034343698204186575808495617

instance : @NeZero Nat Zero.ofOfNat0 fieldModulus := ⟨by decide⟩

/-- An element of the scalar field. -/
abbrev Felt := Fin fieldModulus

namespace Felt

/-- The 32 bytes of an element. -/
def toBytes32 (x : Felt) : Bytes32 := FixedBytes.ofNat 32 x.val

/-- The element that an integer below the modulus is. -/
def ofNat? (n : Nat) : Option Felt := if h : n < fieldModulus then some ⟨n, h⟩ else none

/-- The element that 32 bytes write, if they are canonical. -/
def ofBytes32? (word : Bytes32) : Option Felt := ofNat? word.toNat

/-- The residue of the integer that bytes write. -/
def reduce (bytes : Bytes) : Felt := Fin.ofNat fieldModulus (Bytes.toNat bytes)

@[simp] theorem ofNat?_val (x : Felt) : ofNat? x.val = some x := by
  simp [ofNat?]

end Felt

/-- Whether 32 bytes write an integer below the modulus. -/
def FixedBytes.isCanonical (word : Bytes32) : Bool := word.toNat < fieldModulus

/-- The residue of the integer that bytes write, as 32 bytes. -/
def reduceToBytes32 (bytes : Bytes) : Bytes32 := (Felt.reduce bytes).toBytes32

end RollupWallet
