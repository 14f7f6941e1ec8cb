import Mathlib
import RollupWallet.Hash.Sha256

/-!
# SHA-256 on numbers

A word is a number inside several structures, and to follow a hash step by step all of them are opened
at every operation.  The rounds are therefore stated on the numbers themselves.  They compute the same
chaining words (`Chain.chain_compress`), and so the hash of given bytes is found with arithmetic on
numbers (`bytes_sha256`, `bytes_hmacSha256`).
-/

namespace RollupWallet.Hash.Sha256

/-- The chaining words as numbers. -/
structure Chain where
  a : ℕ
  b : ℕ
  c : ℕ
  d : ℕ
  e : ℕ
  f : ℕ
  g : ℕ
  h : ℕ

def Registers.chain (r : Registers) : Chain :=
  ⟨r.a.toNat, r.b.toNat, r.c.toNat, r.d.toNat, r.e.toNat, r.f.toNat, r.g.toNat, r.h.toNat⟩

/-- A number of 32 bits turned right. -/
def turn (w n : ℕ) : ℕ := (w >>> n) ||| ((w <<< (32 - n)) % 4294967296)

theorem toNat_rotateRight {word n : UInt32} (hpos : 0 < n.toNat) (hlt : n.toNat < 32) :
    (rotateRight word n).toNat = turn word.toNat n.toNat := by
  have hsub : (32 - n).toNat % 32 = 32 - n.toNat := by
    rw [UInt32.toNat_sub]
    have h32 : (32 : UInt32).toNat = 32 := rfl
    omega
  rw [rotateRight, UInt32.toNat_or, UInt32.toNat_shiftRight, UInt32.toNat_shiftLeft, hsub,
    Nat.mod_eq_of_lt hlt, turn]

namespace Chain

/-- The schedule word that follows a window of sixteen. -/
def nextWord (window : List ℕ) : ℕ :=
  let w1 := window.getD 1 0
  let w14 := window.getD 14 0
  let s0 := turn w1 7 ^^^ turn w1 18 ^^^ (w1 >>> 3)
  let s1 := turn w14 17 ^^^ turn w14 19 ^^^ (w14 >>> 10)
  (window.getD 0 0 + s0 + window.getD 9 0 + s1) % 4294967296

/-- One round, with the window moved on by one word. -/
def round (state : Chain × List ℕ) (constant : ℕ) : Chain × List ℕ :=
  let (r, window) := state
  let s1 := turn r.e 6 ^^^ turn r.e 11 ^^^ turn r.e 25
  let choice := (r.e &&& r.f) ^^^ ((4294967295 - r.e) &&& r.g)
  let t1 := r.h + s1 + choice + constant + window.getD 0 0
  let s0 := turn r.a 2 ^^^ turn r.a 13 ^^^ turn r.a 22
  let majority := (r.a &&& r.b) ^^^ (r.a &&& r.c) ^^^ (r.b &&& r.c)
  (⟨(t1 + s0 + majority) % 4294967296, r.a, r.b, r.c, (r.d + t1) % 4294967296, r.e, r.f, r.g⟩,
    window.tail ++ [nextWord window])

/-- The chaining words after a block of 64 bytes. -/
def compress (r : Chain) (block : Bytes) : Chain :=
  let window := (List.range 16).map fun i =>
    Bytes.toNat ((block.drop (4 * i)).take 4) % 4294967296
  let (s, _) := (roundConstants.map UInt32.toNat).foldl round (r, window)
  ⟨(r.a + s.a) % 4294967296, (r.b + s.b) % 4294967296, (r.c + s.c) % 4294967296,
    (r.d + s.d) % 4294967296, (r.e + s.e) % 4294967296, (r.f + s.f) % 4294967296,
    (r.g + s.g) % 4294967296, (r.h + s.h) % 4294967296⟩

/-- The numbers of a state between two rounds. -/
def ofState (state : Registers × Vector UInt32 16) : Chain × List ℕ :=
  (state.1.chain, state.2.toList.map UInt32.toNat)

theorem getD_toList (window : Vector UInt32 16) (i : ℕ) :
    (window.toList.map UInt32.toNat).getD i 0 = (window.getD i 0).toNat := by
  have hzero : (0 : UInt32).toNat = 0 := rfl
  rw [← hzero, List.getD_map, Vector.getD, Array.getD_eq_getD_getElem?, Vector.getElem?_toArray,
    List.getD_eq_getElem?_getD, Vector.getElem?_toList]

theorem nextWord_toList (window : Vector UInt32 16) :
    nextWord (window.toList.map UInt32.toNat) = (Sha256.nextWord window).toNat := by
  simp only [nextWord, getD_toList]
  simp (disch := decide) [Sha256.nextWord, toNat_rotateRight]

/-- The window that is moved on loses its first word. -/
theorem toList_moved (window : Vector UInt32 16) (next : UInt32) :
    (Vector.ofFn fun i : Fin 16 => if i.val < 15 then window.getD (i.val + 1) 0 else next).toList =
      window.toList.tail ++ [next] := by
  apply List.ext_getElem
  · simp
  · intro i hi hi'
    have hi16 : i < 16 := by simpa using hi
    simp only [Vector.getElem_toList, Vector.getElem_ofFn, List.getElem_append, List.length_tail,
      Vector.length_toList, List.getElem_tail, List.getElem_singleton]
    by_cases h : i < 15
    · have hnext : i + 1 < 16 := by omega
      simp [h, hnext, Vector.getD]
    · simp [h]

/-- A round on words is a round on their numbers. -/
theorem ofState_round (state : Registers × Vector UInt32 16) (constant : UInt32) :
    ofState (Sha256.round state constant) = round (ofState state) constant.toNat := by
  obtain ⟨r, window⟩ := state
  simp only [ofState, Sha256.round, round, toList_moved, List.map_append, List.map_tail,
    List.map_singleton, nextWord_toList, getD_toList, Registers.chain]
  simp (disch := decide) [toNat_rotateRight, UInt32.toNat_not]

theorem ofState_foldl (constants : List UInt32) (state : Registers × Vector UInt32 16) :
    ofState (constants.foldl Sha256.round state) =
      (constants.map UInt32.toNat).foldl round (ofState state) := by
  induction constants generalizing state with
  | nil => rfl
  | cons constant constants ih =>
      rw [List.foldl_cons, List.map_cons, List.foldl_cons, ih, ofState_round]

/-- The words of a block. -/
theorem toList_words (block : Bytes) :
    (Vector.ofFn fun i : Fin 16 =>
      (Bytes.toNat ((block.drop (4 * i.val)).take 4)).toUInt32).toList.map UInt32.toNat =
        (List.range 16).map fun i => Bytes.toNat ((block.drop (4 * i)).take 4) % 4294967296 := by
  apply List.ext_getElem
  · simp
  · intro i hi hi'
    simp

/-- The chaining words after a block, from their numbers. -/
theorem chain_compress (r : Registers) (block : Bytes) :
    (Sha256.compress r block).chain = compress r.chain block := by
  simp only [compress, ← toList_words]
  have hfold := ofState_foldl roundConstants (r, Vector.ofFn fun i : Fin 16 =>
      (Bytes.toNat ((block.drop (4 * i.val)).take 4)).toUInt32)
  simp only [ofState] at hfold
  rw [← hfold]
  simp only [Sha256.compress, Registers.chain, UInt32.toNat_add]

/-- The bytes of the chaining words. -/
def bytes (r : Chain) : Bytes :=
  Bytes.ofNat 4 r.a ++ Bytes.ofNat 4 r.b ++ Bytes.ofNat 4 r.c ++ Bytes.ofNat 4 r.d ++
    Bytes.ofNat 4 r.e ++ Bytes.ofNat 4 r.f ++ Bytes.ofNat 4 r.g ++ Bytes.ofNat 4 r.h

/-- The digest of a message. -/
def hash (message : Bytes) : Bytes :=
  let padded := pad message
  let r := (List.range (padded.length / 64)).foldl
    (fun r i => compress r ((padded.drop (64 * i)).take 64)) Registers.initial.chain
  r.bytes

/-- HMAC of a message, for keys of at most 64 bytes. -/
def hmac (key message : Bytes) : Bytes :=
  let padded := Bytes.padRight 64 key
  hash (padded.map (· ^^^ 0x5c) ++ hash (padded.map (· ^^^ 0x36) ++ message))

end Chain

end RollupWallet.Hash.Sha256

namespace RollupWallet.Hash

open Sha256

/-- **The hash of a message, with arithmetic on numbers.** -/
theorem bytes_sha256 (message : Bytes) : (sha256 message).bytes = Chain.hash message := by
  have hfold : ∀ (indices : List ℕ) (r : Registers),
      (indices.foldl (fun r i => compress r (((pad message).drop (64 * i)).take 64)) r).chain =
        indices.foldl (fun r i => Chain.compress r (((pad message).drop (64 * i)).take 64))
          r.chain := by
    intro indices
    induction indices with
    | nil => exact fun r => rfl
    | cons i indices ih =>
        intro r
        rw [List.foldl_cons, List.foldl_cons, ih, Chain.chain_compress]
  simp only [Chain.hash, ← hfold]
  rfl

theorem bytes_hmacSha256 (key message : Bytes) :
    (hmacSha256 key message).bytes = Chain.hmac key message := by
  simp only [hmacSha256, Chain.hmac, bytes_sha256]

theorem hmacSha256_eq (key message : Bytes) : hmacSha256 key message =
    ⟨Chain.hmac key message, by rw [← bytes_hmacSha256, FixedBytes.length_eq]⟩ :=
  FixedBytes.ext (bytes_hmacSha256 key message)

end RollupWallet.Hash
