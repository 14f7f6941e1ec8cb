import RollupWallet.Bytes.Basic

/-!
# SHA-256 and its keyed form

Layer-1 signatures draw their nonces from HMAC over SHA-256. The message schedule is kept as a
window of sixteen words that slides with the rounds: each round consumes the first word and
appends the one that the recurrence gives.
-/

namespace RollupWallet.Hash.Sha256

/-- A word turned right. -/
def rotateRight (word n : UInt32) : UInt32 := (word >>> n) ||| (word <<< (32 - n))

/-- The eight chaining words. -/
structure Registers where
  a : UInt32
  b : UInt32
  c : UInt32
  d : UInt32
  e : UInt32
  f : UInt32
  g : UInt32
  h : UInt32

/-- The chaining words before the first block. -/
def Registers.initial : Registers :=
  ⟨0x6a09e667, 0xbb67ae85, 0x3c6ef372, 0xa54ff53a, 0x510e527f, 0x9b05688c, 0x1f83d9ab, 0x5be0cd19⟩

/-- The constant of each round. -/
def roundConstants : List UInt32 :=
  [0x428a2f98, 0x71374491, 0xb5c0fbcf, 0xe9b5dba5, 0x3956c25b, 0x59f111f1, 0x923f82a4, 0xab1c5ed5,
    0xd807aa98, 0x12835b01, 0x243185be, 0x550c7dc3, 0x72be5d74, 0x80deb1fe, 0x9bdc06a7, 0xc19bf174,
    0xe49b69c1, 0xefbe4786, 0x0fc19dc6, 0x240ca1cc, 0x2de92c6f, 0x4a7484aa, 0x5cb0a9dc, 0x76f988da,
    0x983e5152, 0xa831c66d, 0xb00327c8, 0xbf597fc7, 0xc6e00bf3, 0xd5a79147, 0x06ca6351, 0x14292967,
    0x27b70a85, 0x2e1b2138, 0x4d2c6dfc, 0x53380d13, 0x650a7354, 0x766a0abb, 0x81c2c92e, 0x92722c85,
    0xa2bfe8a1, 0xa81a664b, 0xc24b8b70, 0xc76c51a3, 0xd192e819, 0xd6990624, 0xf40e3585, 0x106aa070,
    0x19a4c116, 0x1e376c08, 0x2748774c, 0x34b0bcb5, 0x391c0cb3, 0x4ed8aa4a, 0x5b9cca4f, 0x682e6ff3,
    0x748f82ee, 0x78a5636f, 0x84c87814, 0x8cc70208, 0x90befffa, 0xa4506ceb, 0xbef9a3f7, 0xc67178f2]

/-- The schedule word that follows a window of sixteen. -/
def nextWord (window : Vector UInt32 16) : UInt32 :=
  let w1 := window.getD 1 0
  let w14 := window.getD 14 0
  let s0 := rotateRight w1 7 ^^^ rotateRight w1 18 ^^^ (w1 >>> 3)
  let s1 := rotateRight w14 17 ^^^ rotateRight w14 19 ^^^ (w14 >>> 10)
  window.getD 0 0 + s0 + window.getD 9 0 + s1

/-- One round, with the window moved on by one word. -/
def round (state : Registers × Vector UInt32 16) (constant : UInt32) :
    Registers × Vector UInt32 16 :=
  let (r, window) := state
  let s1 := rotateRight r.e 6 ^^^ rotateRight r.e 11 ^^^ rotateRight r.e 25
  let choice := (r.e &&& r.f) ^^^ (~~~ r.e &&& r.g)
  let t1 := r.h + s1 + choice + constant + window.getD 0 0
  let s0 := rotateRight r.a 2 ^^^ rotateRight r.a 13 ^^^ rotateRight r.a 22
  let majority := (r.a &&& r.b) ^^^ (r.a &&& r.c) ^^^ (r.b &&& r.c)
  let next := nextWord window
  (⟨t1 + s0 + majority, r.a, r.b, r.c, r.d + t1, r.e, r.f, r.g⟩,
    Vector.ofFn fun i => if i.val < 15 then window.getD (i.val + 1) 0 else next)

/-- The chaining words after a block of 64 bytes. -/
def compress (r : Registers) (block : Bytes) : Registers :=
  let window : Vector UInt32 16 := Vector.ofFn fun i =>
    (Bytes.toNat ((block.drop (4 * i.val)).take 4)).toUInt32
  let (s, _) := roundConstants.foldl round (r, window)
  ⟨r.a + s.a, r.b + s.b, r.c + s.c, r.d + s.d, r.e + s.e, r.f + s.f, r.g + s.g, r.h + s.h⟩

/-- A message with its end mark and its length in bits, in full blocks. -/
def pad (message : Bytes) : Bytes :=
  message ++ [0x80] ++ List.replicate ((119 - message.length % 64) % 64) 0 ++
    Bytes.ofNat 8 (8 * message.length)

end RollupWallet.Hash.Sha256

namespace RollupWallet.Hash

open Sha256

/-- The SHA-256 digest of a message. -/
def sha256 (message : Bytes) : Bytes32 :=
  let padded := pad message
  let r := (List.range (padded.length / 64)).foldl
    (fun r i => compress r ((padded.drop (64 * i)).take 64)) Registers.initial
  let word (w : UInt32) : Bytes := Bytes.ofNat 4 w.toNat
  ⟨word r.a ++ word r.b ++ word r.c ++ word r.d ++ word r.e ++ word r.f ++ word r.g ++ word r.h,
    by simp [word]⟩

/-- HMAC over SHA-256, for keys of at most 64 bytes. -/
def hmacSha256 (key message : Bytes) : Bytes32 :=
  let padded := Bytes.padRight 64 key
  let inner := sha256 (padded.map (· ^^^ 0x36) ++ message)
  sha256 (padded.map (· ^^^ 0x5c) ++ inner.bytes)

end RollupWallet.Hash
