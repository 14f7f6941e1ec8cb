import RollupWallet.Bytes.Basic

/-!
# BLAKE2b with a digest of 64 bytes

Seeds are expanded, and signing nonces derived, with unkeyed BLAKE2b.
-/

namespace RollupWallet.Hash.Blake2b

/-- A word turned right. -/
def rotateRight (word n : UInt64) : UInt64 := (word >>> n) ||| (word <<< (64 - n))

/-- The initialization vector. -/
def initial : Vector UInt64 8 :=
  #v[0x6a09e667f3bcc908, 0xbb67ae8584caa73b, 0x3c6ef372fe94f82b, 0xa54ff53a5f1d36f1,
    0x510e527fade682d1, 0x9b05688c2b3e6c1f, 0x1f83d9abfb41bd6b, 0x5be0cd19137e2179]

/-- The order in which each round takes the message words. -/
def schedule : List (Vector (Fin 16) 16) :=
  [#v[0, 1, 2, 3, 4, 5, 6, 7, 8, 9, 10, 11, 12, 13, 14, 15],
    #v[14, 10, 4, 8, 9, 15, 13, 6, 1, 12, 0, 2, 11, 7, 5, 3],
    #v[11, 8, 12, 0, 5, 2, 15, 13, 10, 14, 3, 6, 7, 1, 9, 4],
    #v[7, 9, 3, 1, 13, 12, 11, 14, 2, 6, 5, 10, 4, 0, 15, 8],
    #v[9, 0, 5, 7, 2, 4, 10, 15, 14, 1, 11, 12, 6, 8, 3, 13],
    #v[2, 12, 6, 10, 0, 11, 8, 3, 4, 13, 7, 5, 15, 14, 1, 9],
    #v[12, 5, 1, 15, 14, 13, 4, 10, 0, 7, 6, 3, 9, 2, 8, 11],
    #v[13, 11, 7, 14, 12, 1, 3, 9, 5, 0, 15, 4, 8, 6, 2, 10],
    #v[6, 15, 14, 9, 11, 3, 0, 8, 12, 2, 13, 7, 1, 4, 10, 5],
    #v[10, 2, 8, 4, 7, 6, 1, 5, 15, 11, 9, 14, 3, 12, 13, 0],
    #v[0, 1, 2, 3, 4, 5, 6, 7, 8, 9, 10, 11, 12, 13, 14, 15],
    #v[14, 10, 4, 8, 9, 15, 13, 6, 1, 12, 0, 2, 11, 7, 5, 3]]

/-- The sixteen working words. -/
abbrev Work := Vector UInt64 16

/-- Mixes four working words with two message words. -/
def mix (v : Work) (a b c d : Fin 16) (x y : UInt64) : Work :=
  let va := v.get a + v.get b + x
  let vd := rotateRight (v.get d ^^^ va) 32
  let vc := v.get c + vd
  let vb := rotateRight (v.get b ^^^ vc) 24
  let va := va + vb + y
  let vd := rotateRight (vd ^^^ va) 16
  let vc := vc + vd
  let vb := rotateRight (vb ^^^ vc) 63
  (((v.set a va).set b vb).set c vc).set d vd

/-- One round: columns, then diagonals. -/
def round (m : Vector UInt64 16) (v : Work) (order : Vector (Fin 16) 16) : Work :=
  let word (i : Fin 16) : UInt64 := m.get (order.get i)
  let v := mix v 0 4 8 12 (word 0) (word 1)
  let v := mix v 1 5 9 13 (word 2) (word 3)
  let v := mix v 2 6 10 14 (word 4) (word 5)
  let v := mix v 3 7 11 15 (word 6) (word 7)
  let v := mix v 0 5 10 15 (word 8) (word 9)
  let v := mix v 1 6 11 12 (word 10) (word 11)
  let v := mix v 2 7 8 13 (word 12) (word 13)
  mix v 3 4 9 14 (word 14) (word 15)

/-- The chaining words after a block of 128 bytes. `total` counts the message bytes up to and with
this block. -/
def compress (h : Vector UInt64 8) (block : Bytes) (total : Nat) (last : Bool) :
    Vector UInt64 8 :=
  let m : Vector UInt64 16 := Vector.ofFn fun i =>
    (Bytes.toNatLE ((block.drop (8 * i.val)).take 8)).toUInt64
  let v : Work := h ++ initial
  let v := v.set 12 (v.get 12 ^^^ total.toUInt64)
  let v := v.set 13 (v.get 13 ^^^ (total / UInt64.size).toUInt64)
  let v := if last then v.set 14 (~~~ v.get 14) else v
  let v := schedule.foldl (round m) v
  Vector.ofFn fun i =>
    h.get i ^^^ v.get ⟨i.val, by omega⟩ ^^^ v.get ⟨i.val + 8, by omega⟩

end RollupWallet.Hash.Blake2b

namespace RollupWallet.Hash

open Blake2b

/-- The BLAKE2b digest of a message. -/
def blake2b (message : Bytes) : FixedBytes 64 :=
  let full := (message.length - 1) / 128
  let start := initial.set 0 (initial.get 0 ^^^ 0x01010040)
  let h := (List.range full).foldl
    (fun h i => compress h ((message.drop (128 * i)).take 128) (128 * (i + 1)) false) start
  let h := compress h (Bytes.padRight 128 (message.drop (128 * full))) message.length true
  let word (i : Fin 8) : Bytes := Bytes.ofNatLE 8 (h.get i).toNat
  ⟨word 0 ++ word 1 ++ word 2 ++ word 3 ++ word 4 ++ word 5 ++ word 6 ++ word 7, by simp [word]⟩

end RollupWallet.Hash
