import RollupWallet.Field
import RollupWallet.Hash.Keccak

/-!
# The MiMC sponge

Bytes are collected in a buffer. When the digest is taken, the buffer is cut into blocks of 32
bytes, each block is reduced into the field and mixed into the chaining value, and the buffer is
emptied. A last block that is not full is filled up by zero bytes in front, so an empty buffer
counts as one block of zeros. The chaining value stays after a digest, so that later bytes
continue the same sponge.

The mixing is a permutation of the field, keyed by the chaining value, in a mode that adds the key
and the block again (`Sponge.mix`).
-/

namespace RollupWallet.Hash

namespace Mimc

/-- The seventh power, which permutes the field. -/
def seventh (x : Felt) : Felt :=
  let x2 := x * x
  let x4 := x2 * x2
  x4 * x2 * x

/-- One round of the permutation. -/
def round (key : Felt) (x constant : Felt) : Felt := seventh (x + key + constant)

/-- The permutation with given round constants: all rounds, and the key once more at the end. -/
def permute (constants : List Felt) (key x : Felt) : Felt :=
  constants.foldl (round key) x + key

/-- The chain of digests that starts after `word`. -/
def digests : (count : Nat) → (word : Bytes32) → List Bytes32
  | 0, _ => []
  | count + 1, word =>
    let next := keccak256 word.bytes
    next :: digests count next

/-- The number of rounds. -/
def rounds : Nat := 91

/-- The round constants, an iterated digest of the word `seed`. -/
def constants : List Felt :=
  (digests rounds (keccak256 [115, 101, 101, 100])).map fun word => Felt.reduce word.bytes

/-- Blocks of 32 bytes. The last is filled up in front, and there is always one. -/
def blocks (data : Bytes) : List Bytes :=
  match _h : data.drop 32 with
  | [] => [Bytes.padLeft 32 data]
  | byte :: rest => data.take 32 :: blocks (byte :: rest)
termination_by data.length
decreasing_by
  have hlen := congrArg List.length _h
  simp only [List.length_drop, List.length_cons] at hlen ⊢
  omega

end Mimc

/-- A sponge: the bytes written since the last digest, and the chaining value. -/
structure Sponge where
  buffer : Bytes
  chain : Felt
deriving DecidableEq

namespace Sponge

/-- The sponge to which nothing has been written. -/
def empty : Sponge := ⟨[], 0⟩

instance : Inhabited Sponge := ⟨empty⟩

/-- Writes bytes. -/
def write (sponge : Sponge) (bytes : Bytes) : Sponge :=
  { sponge with buffer := sponge.buffer ++ bytes }

/-- Writes one field element; a word that is not canonical is refused. -/
def writeElement? (sponge : Sponge) (word : Bytes32) : Option Sponge :=
  if word.isCanonical then some (sponge.write word.bytes) else none

/-- The chaining value after a block. -/
def mix (chain : Felt) (block : Bytes) : Felt :=
  let x := Felt.reduce block
  chain + (Mimc.permute Mimc.constants chain x + x)

/-- Takes the digest: mixes the buffer in, empties it and keeps the chaining value. -/
def sum (sponge : Sponge) : Bytes32 × Sponge :=
  let chain := (Mimc.blocks sponge.buffer).foldl mix sponge.chain
  (chain.toBytes32, ⟨[], chain⟩)

/-- Forgets what has been written and the chaining value. -/
def reset (sponge : Sponge) : Sponge := { sponge with buffer := [], chain := 0 }

/-- The digest of what has been written. -/
def digest (sponge : Sponge) : Bytes32 := sponge.sum.1

end Sponge

/-- The MiMC digest of bytes. -/
def mimc (bytes : Bytes) : Bytes32 := (Sponge.empty.write bytes).digest

end RollupWallet.Hash
