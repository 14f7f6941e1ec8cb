import RollupWallet.Bytes.Basic

/-!
# Keccak-256

The hash of layer 1: the sponge over Keccak-f[1600] with a rate of 136 bytes and the padding of
the first submission, which starts with the byte `01`.
-/

namespace RollupWallet.Hash.Keccak

/-- The 25 lanes; the lane of column `x` and row `y` stands at `x + 5 * y`. -/
abbrev State := Vector UInt64 25

/-- The lane of a column and a row, both taken modulo five. -/
def lane (state : State) (x y : Nat) : UInt64 := state.get ⟨x % 5 + 5 * (y % 5), by omega⟩

/-- A word turned left by fewer than 64 bits. -/
def rotateLeft (word : UInt64) (n : Nat) : UInt64 :=
  if n = 0 then word else (word <<< n.toUInt64) ||| (word >>> (64 - n).toUInt64)

/-- By how many bits each lane is turned. -/
def offsets : Vector Nat 25 :=
  #v[0, 1, 62, 28, 27, 36, 44, 6, 55, 20, 3, 10, 43, 25, 39, 41, 45, 15, 21, 8, 18, 2, 61, 56, 14]

/-- The constant that each round adds to the first lane. -/
def roundConstants : List UInt64 :=
  [0x0000000000000001, 0x0000000000008082, 0x800000000000808A, 0x8000000080008000,
    0x000000000000808B, 0x0000000080000001, 0x8000000080008081, 0x8000000000008009,
    0x000000000000008A, 0x0000000000000088, 0x0000000080008009, 0x000000008000000A,
    0x000000008000808B, 0x800000000000008B, 0x8000000000008089, 0x8000000000008003,
    0x8000000000008002, 0x8000000000000080, 0x000000000000800A, 0x800000008000000A,
    0x8000000080008081, 0x8000000000008080, 0x0000000080000001, 0x8000000080008008]

/-- One round: columns are mixed, lanes turned and moved, rows combined, the constant added. -/
def round (state : State) (constant : UInt64) : State :=
  let column : Vector UInt64 5 := Vector.ofFn fun x =>
    lane state x 0 ^^^ lane state x 1 ^^^ lane state x 2 ^^^ lane state x 3 ^^^ lane state x 4
  let mix : Vector UInt64 5 := Vector.ofFn fun x =>
    column.get ⟨(x + 4) % 5, by omega⟩ ^^^ rotateLeft (column.get ⟨(x + 1) % 5, by omega⟩) 1
  let moved : State := Vector.ofFn fun i =>
    let y := i.val % 5
    let x := (y + 3 * (i.val / 5)) % 5
    rotateLeft (lane state x y ^^^ mix.get ⟨x, by omega⟩) (offsets.get ⟨x + 5 * y, by omega⟩)
  Vector.ofFn fun i =>
    let x := i.val % 5
    let y := i.val / 5
    let combined := lane moved x y ^^^ (~~~ lane moved (x + 1) y &&& lane moved (x + 2) y)
    if i.val = 0 then combined ^^^ constant else combined

/-- The permutation of 24 rounds. -/
def permute (state : State) : State := roundConstants.foldl round state

/-- The number of bytes that one permutation takes in. -/
def rate : Nat := 136

/-- A message filled up to a multiple of the rate. -/
def pad (message : Bytes) : Bytes :=
  let missing := rate - message.length % rate
  if missing = 1 then message ++ [0x81]
  else message ++ [0x01] ++ List.replicate (missing - 2) 0 ++ [0x80]

/-- Adds a block of 136 bytes to the state and permutes. -/
def absorb (state : State) (block : Bytes) : State :=
  permute <| Vector.ofFn fun i =>
    state.get i ^^^ (Bytes.toNatLE ((block.drop (8 * i.val)).take 8)).toUInt64

/-- The state after a padded message. -/
def absorbAll (message : Bytes) : State :=
  let padded := pad message
  (List.range (padded.length / rate)).foldl
    (fun state i => absorb state ((padded.drop (rate * i)).take rate)) (Vector.replicate 25 0)

end RollupWallet.Hash.Keccak

namespace RollupWallet.Hash

/-- The Keccak-256 digest of a message. -/
def keccak256 (message : Bytes) : Bytes32 :=
  let state := Keccak.absorbAll message
  let word (i : Nat) : Bytes := Bytes.ofNatLE 8 (Keccak.lane state i 0).toNat
  ⟨word 0 ++ word 1 ++ word 2 ++ word 3, by simp [word]⟩

end RollupWallet.Hash
