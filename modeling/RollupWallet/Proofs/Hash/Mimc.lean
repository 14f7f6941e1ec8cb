import Mathlib
import RollupWallet.Hash.Mimc
import RollupWallet.Proofs.Bytes

/-!
# What the sponge keeps of its bytes

A digest is where the chain ends that starts at zero and takes one step for each element that is
absorbed (`mimc_eq`).  So bytes can have one digest for two reasons.

* They are absorbed alike.  The sponge keeps of its bytes how many blocks they have, where an empty
  string has one, and each block as a number modulo the order of the field; the last block may be
  short.  Nothing else is kept (`absorbed_eq_iff`), so zero bytes in front of the last block are lost
  (`sameBlocks_zeros`) and so are multiples of the order.  Among strings of one length whose blocks
  stay below the order nothing is lost (`eq_of_absorbed_eq`).
* Their chains meet.  Walking back from the end, two chains of different elements that end alike have
  taken steps from different inputs to one value, or one of them has come back to the start
  (`run_eq_iff`).  This is all that is asked of the step, about which nothing is known.
-/

namespace RollupWallet.Hash

open Mimc

namespace Mimc

/-! ### Blocks and elements -/

theorem blocks_of_le {data : Bytes} (h : data.length ≤ 32) :
    blocks data = [Bytes.padLeft 32 data] := by
  have hdrop : data.drop 32 = [] := List.drop_eq_nil_of_le h
  rw [blocks]
  split
  · rfl
  · next heq => rw [hdrop] at heq; cases heq

theorem blocks_of_lt {data : Bytes} (h : 32 < data.length) :
    blocks data = data.take 32 :: blocks (data.drop 32) := by
  have hdrop : data.drop 32 ≠ [] := by
    intro hnil
    have hlength := List.drop_eq_nil_iff.mp hnil
    omega
  rw [blocks]
  split
  · next heq => exact absurd heq hdrop
  · next heq => rw [heq]

/-- The elements that the sponge absorbs. -/
def absorbed (data : Bytes) : List Felt := (blocks data).map Felt.reduce

/-- The number of blocks. -/
def blockCount (data : Bytes) : ℕ := max 1 ((data.length + 31) / 32)

/-- A block, of which the last may be short. -/
def block (i : ℕ) (data : Bytes) : Bytes := (data.drop (32 * i)).take 32

theorem length_block (i : ℕ) (data : Bytes) :
    (block i data).length = min 32 (data.length - 32 * i) := by
  rw [block, List.length_take, List.length_drop]

theorem reduce_zeros_append (n : ℕ) (data : Bytes) :
    Felt.reduce (List.replicate n 0 ++ data) = Felt.reduce data := by
  induction n with
  | zero => rfl
  | succ n ih =>
      rw [← ih, List.replicate_succ]
      rfl

theorem reduce_padLeft (width : ℕ) (data : Bytes) :
    Felt.reduce (Bytes.padLeft width data) = Felt.reduce data :=
  reduce_zeros_append (width - data.length) data

/-- **One element for each block**, short or not. -/
theorem absorbed_eq (data : Bytes) :
    absorbed data =
      (List.range (blockCount data)).map fun i => Felt.reduce (block i data) := by
  induction hlength : data.length using Nat.strong_induction_on generalizing data with
  | _ n ih =>
      subst hlength
      rcases Nat.lt_or_ge 32 data.length with h | h
      · -- a full block comes off the front, and the others are those of the rest
        have hcount : blockCount data = blockCount (data.drop 32) + 1 := by
          simp only [blockCount, List.length_drop]
          omega
        have hblock : ∀ i, block (i + 1) data = block i (data.drop 32) := by
          intro i
          rw [block, block, List.drop_drop, Nat.mul_add_one, Nat.add_comm]
        rw [absorbed, blocks_of_lt h, List.map_cons, ← absorbed,
          ih _ (by rw [List.length_drop]; omega) _ rfl, hcount, List.range_succ_eq_map, List.map_cons,
          List.map_map]
        congr 1
        exact List.map_congr_left fun i _ => congrArg Felt.reduce (hblock i).symm
      · -- the only block is filled up in front, which its element does not show
        have hcount : blockCount data = 1 := by
          rw [blockCount]
          omega
        have hblock : block 0 data = data := by
          rw [block, Nat.mul_zero, List.drop_zero, List.take_of_length_le h]
        rw [absorbed, blocks_of_le h, hcount, List.range_one, List.map_singleton, List.map_singleton,
          reduce_padLeft, hblock]

/-- The sponge keeps the same of two strings: the number of blocks, and each block modulo the order
of the field. -/
@[mk_iff]
structure SameBlocks (a b : Bytes) : Prop where
  count_eq : blockCount a = blockCount b
  modEq : ∀ i < blockCount a, Bytes.toNat (block i a) ≡ Bytes.toNat (block i b) [MOD fieldModulus]

instance (a b : Bytes) : Decidable (SameBlocks a b) := decidable_of_iff' _ (sameBlocks_iff a b)

theorem reduce_eq_iff {a b : Bytes} :
    Felt.reduce a = Felt.reduce b ↔ Bytes.toNat a ≡ Bytes.toNat b [MOD fieldModulus] :=
  Fin.ext_iff

/-- **What the sponge keeps.** -/
theorem absorbed_eq_iff {a b : Bytes} : absorbed a = absorbed b ↔ SameBlocks a b := by
  rw [absorbed_eq, absorbed_eq]
  constructor
  · intro h
    have hcount : blockCount a = blockCount b := by
      simpa using congrArg List.length h
    refine ⟨hcount, fun i hi => reduce_eq_iff.mp ?_⟩
    rw [← hcount] at h
    exact List.map_inj_left.mp h i (List.mem_range.mpr hi)
  · rintro ⟨hcount, hblocks⟩
    rw [← hcount]
    exact List.map_congr_left fun i hi => reduce_eq_iff.mpr (hblocks i (List.mem_range.mp hi))

/-- A block that writes the order of the field counts as a block of zeros. -/
example : SameBlocks (Bytes.ofNat 32 fieldModulus) (List.replicate 32 0) := by decide +kernel

/-- The elements of full blocks with one more block behind, which may be short. -/
theorem absorbed_append {k : ℕ} {front last : Bytes} (hfront : front.length = 32 * k)
    (hlast : last ≠ [] ∨ k = 0) (hle : last.length ≤ 32) :
    absorbed (front ++ last) =
      ((List.range k).map fun i => Felt.reduce (block i front)) ++ [Felt.reduce last] := by
  have hpos : 0 < last.length ∨ k = 0 := hlast.imp_left List.length_pos_of_ne_nil
  have hcount : blockCount (front ++ last) = k + 1 := by
    rw [blockCount, List.length_append, hfront]
    omega
  have hblock : ∀ i < k, block i (front ++ last) = block i front := by
    intro i hi
    have hdrop : 32 * i ≤ front.length := by omega
    have htake : 32 ≤ (front.drop (32 * i)).length := by
      rw [List.length_drop]
      omega
    rw [block, block, List.drop_append_of_le_length hdrop, List.take_append_of_le_length htake]
  have hend : block k (front ++ last) = last := by
    rw [block, ← hfront, List.drop_left, List.take_of_length_le hle]
  rw [absorbed_eq, hcount, List.range_succ, List.map_append, List.map_singleton, hend]
  congr 1
  exact List.map_congr_left fun i hi => congrArg Felt.reduce (hblock i (List.mem_range.mp hi))

/-- **Zero bytes in front of the last block are lost.** -/
theorem sameBlocks_zeros {k : ℕ} {front last : Bytes} (hfront : front.length = 32 * k)
    (hlast : last ≠ [] ∨ k = 0) {n : ℕ} (hle : n + last.length ≤ 32) :
    SameBlocks (front ++ last) (front ++ (List.replicate n 0 ++ last)) := by
  have hlonger : List.replicate n 0 ++ last ≠ [] ∨ k = 0 :=
    hlast.imp_left fun hne => List.append_ne_nil_of_right_ne_nil _ hne
  rw [← absorbed_eq_iff, absorbed_append hfront hlast (by omega), absorbed_append hfront hlonger
    (by rw [List.length_append, List.length_replicate]; exact hle), reduce_zeros_append]

theorem eq_of_block_eq {a b : Bytes} (hlength : a.length = b.length)
    (h : ∀ i < blockCount a, block i a = block i b) : a = b := by
  refine List.ext_getElem hlength fun j hja hjb => ?_
  have hi : j / 32 < blockCount a := by
    rw [blockCount]
    omega
  -- the byte at `j` is that at `j % 32` of the block `j / 32`
  have hj : 32 * (j / 32) + j % 32 = j := Nat.div_add_mod j 32
  have hbyte := congrArg (·[j % 32]?) (h (j / 32) hi)
  simp only [block, List.getElem?_take, Nat.mod_lt j (by decide : 0 < 32), if_true,
    List.getElem?_drop, hj] at hbyte
  rw [List.getElem?_eq_getElem hja, List.getElem?_eq_getElem hjb] at hbyte
  exact Option.some.inj hbyte

/-- **Strings of one length are kept entirely if no block reaches the order of the field.** -/
theorem eq_of_absorbed_eq {a b : Bytes} (hlength : a.length = b.length)
    (ha : ∀ i < blockCount a, Bytes.toNat (block i a) < fieldModulus)
    (hb : ∀ i < blockCount b, Bytes.toNat (block i b) < fieldModulus)
    (h : absorbed a = absorbed b) : a = b := by
  obtain ⟨hcount, hblocks⟩ := absorbed_eq_iff.mp h
  refine eq_of_block_eq hlength fun i hi => Bytes.eq_of_toNat_eq ?_ ?_
  · rw [length_block, length_block, hlength]
  · exact (hblocks i hi).eq_of_lt_of_lt (ha i hi) (hb i (hcount ▸ hi))

/-! ### Chains -/

/-- The chaining value after an element. -/
def step (chain x : Felt) : Felt := chain + (permute constants chain x + x)

/-- The chaining value after a row of elements. -/
def run (start : Felt) (elements : List Felt) : Felt := elements.foldl step start

@[simp] theorem run_nil (start : Felt) : run start [] = start := rfl

@[simp] theorem run_append_singleton (start : Felt) (elements : List Felt) (x : Felt) :
    run start (elements ++ [x]) = step (run start elements) x := by
  rw [run, List.foldl_append]
  rfl

/-- Two chains of different elements end alike. -/
inductive Meets (start : Felt) : List Felt → List Felt → Prop
  /-- Steps from different inputs lead to one value. -/
  | here {xs ys : List Felt} {x y : Felt} (hinput : (run start xs, x) ≠ (run start ys, y))
      (h : step (run start xs) x = step (run start ys) y) : Meets start (xs ++ [x]) (ys ++ [y])
  /-- The first chain comes back to the start. -/
  | left {xs : List Felt} (hne : xs ≠ []) (h : run start xs = start) : Meets start xs []
  /-- The second chain comes back to the start. -/
  | right {ys : List Felt} (hne : ys ≠ []) (h : run start ys = start) : Meets start [] ys
  /-- Chains that have met go on alike. -/
  | append {xs ys : List Felt} (x : Felt) (h : Meets start xs ys) :
      Meets start (xs ++ [x]) (ys ++ [x])

theorem Meets.run_eq {start : Felt} {xs ys : List Felt} (h : Meets start xs ys) :
    run start xs = run start ys := by
  induction h with
  | here hinput h => rw [run_append_singleton, run_append_singleton, h]
  | left hne h => exact h
  | right hne h => exact h.symm
  | append x h ih => rw [run_append_singleton, run_append_singleton, ih]

/-- **Chains end alike exactly if their elements are the same or they meet.** -/
theorem run_eq_iff {start : Felt} {xs ys : List Felt} :
    run start xs = run start ys ↔ xs = ys ∨ Meets start xs ys := by
  refine ⟨fun h => ?_, ?_⟩
  · -- both chains are walked back from the end
    induction xs using List.reverseRecOn generalizing ys with
    | nil =>
        by_cases hys : ys = []
        · exact .inl hys.symm
        · exact .inr (.right hys h.symm)
    | append_singleton xs x ih =>
        rcases List.eq_nil_or_concat ys with rfl | ⟨ys, y, rfl⟩
        · exact .inr (.left (by simp) h)
        rw [List.concat_eq_append] at h ⊢
        rw [run_append_singleton, run_append_singleton] at h
        by_cases hinput : (run start xs, x) = (run start ys, y)
        · obtain ⟨hchain, rfl⟩ := Prod.mk.inj hinput
          rcases ih hchain with rfl | hmeets
          · exact .inl rfl
          · exact .inr (.append x hmeets)
        · exact .inr (.here hinput h)
  · rintro (rfl | h)
    · rfl
    · exact h.run_eq

end Mimc

/-! ### Digests -/

theorem Sponge.digest_eq (sponge : Sponge) :
    sponge.digest = (run sponge.chain (absorbed sponge.buffer)).toBytes32 := by
  rw [Sponge.digest, Sponge.sum, run, absorbed, List.foldl_map]
  rfl

theorem mimc_eq (data : Bytes) : mimc data = (run 0 (absorbed data)).toBytes32 :=
  Sponge.digest_eq _

/-- **Bytes have one digest exactly if the sponge keeps the same of them or their chains meet.** -/
theorem mimc_eq_iff {a b : Bytes} :
    mimc a = mimc b ↔ SameBlocks a b ∨ Meets 0 (absorbed a) (absorbed b) := by
  rw [mimc_eq, mimc_eq, Felt.toBytes32_injective.eq_iff, run_eq_iff, absorbed_eq_iff]

/-! ### Rows of elements -/

/-- Words in a row are absorbed one by one. -/
theorem absorbed_flatMap {words : List Bytes32} (hne : words ≠ []) :
    absorbed (words.flatMap (·.bytes)) = words.map fun word => Felt.reduce word.bytes := by
  induction words with
  | nil => exact absurd rfl hne
  | cons word words ih =>
      rw [List.flatMap_cons, List.map_cons]
      -- the last word is a block of its own, which has nothing to be filled up
      by_cases hwords : words = []
      · have hlength : (word.bytes ++ []).length ≤ 32 := by simp [word.length_eq]
        rw [hwords, List.flatMap_nil, absorbed, blocks_of_le hlength, List.map_singleton,
          reduce_padLeft, List.append_nil, List.map_nil]
      · obtain ⟨next, rest, rfl⟩ := List.exists_cons_of_ne_nil hwords
        have hlength : 32 < (word.bytes ++ (next :: rest).flatMap (·.bytes)).length := by
          simp only [List.flatMap_cons, List.length_append, word.length_eq, next.length_eq]
          omega
        rw [absorbed, blocks_of_lt hlength, List.map_cons, List.take_left' word.length_eq,
          List.drop_left' word.length_eq, ← absorbed, ih hwords]

theorem Sponge.eq_write_of_writeElement? {words : List Bytes32} {sponge filled : Sponge}
    (h : words.foldlM Sponge.writeElement? sponge = some filled) :
    filled = sponge.write (words.flatMap (·.bytes)) := by
  induction words generalizing sponge with
  | nil =>
      obtain rfl := Option.some.inj h
      rw [Sponge.write, List.flatMap_nil, List.append_nil]
  | cons word words ih =>
      rw [List.foldlM_cons] at h
      obtain ⟨next, hnext, h⟩ := Option.bind_eq_some_iff.mp h
      unfold Sponge.writeElement? at hnext
      split at hnext
      · obtain rfl := Option.some.inj hnext
        rw [ih h, Sponge.write, Sponge.write, Sponge.write, List.flatMap_cons, List.append_assoc]
      · cases hnext

theorem eq_of_map_reduce_eq {us vs : List Bytes32} (hus : ∀ u ∈ us, u.isCanonical = true)
    (hvs : ∀ v ∈ vs, v.isCanonical = true)
    (h : us.map (fun u => Felt.reduce u.bytes) = vs.map (fun v => Felt.reduce v.bytes)) : us = vs := by
  induction us generalizing vs with
  | nil => exact (List.map_eq_nil_iff.mp h.symm).symm
  | cons u us ih =>
      obtain ⟨v, vs, rfl⟩ := List.exists_cons_of_ne_nil (l := vs) (by rintro rfl; cases h)
      obtain ⟨hu, hus⟩ := List.forall_mem_cons.mp hus
      obtain ⟨hv, hvs⟩ := List.forall_mem_cons.mp hvs
      rw [List.map_cons, List.map_cons] at h
      obtain ⟨hhead, htail⟩ := List.cons.inj h
      have hmodEq : u.toNat ≡ v.toNat [MOD fieldModulus] := reduce_eq_iff.mp hhead
      have hword := hmodEq.eq_of_lt_of_lt (of_decide_eq_true hu) (of_decide_eq_true hv)
      rw [FixedBytes.toNat_injective hword, ih hus hvs htail]

/-- **Rows of elements have one digest exactly if they are the same or their chains meet.** -/
theorem mimc_flatMap_eq_iff {us vs : List Bytes32} (hus : us ≠ []) (hvs : vs ≠ [])
    (hu : ∀ u ∈ us, u.isCanonical = true) (hv : ∀ v ∈ vs, v.isCanonical = true) :
    mimc (us.flatMap (·.bytes)) = mimc (vs.flatMap (·.bytes)) ↔
      us = vs ∨ Meets 0 (absorbed (us.flatMap (·.bytes))) (absorbed (vs.flatMap (·.bytes))) := by
  rw [mimc_eq, mimc_eq, Felt.toBytes32_injective.eq_iff, run_eq_iff]
  have hsame : absorbed (us.flatMap (·.bytes)) = absorbed (vs.flatMap (·.bytes)) ↔ us = vs := by
    rw [absorbed_flatMap hus, absorbed_flatMap hvs]
    exact ⟨eq_of_map_reduce_eq hu hv, fun h => by rw [h]⟩
  rw [hsame]

end RollupWallet.Hash
