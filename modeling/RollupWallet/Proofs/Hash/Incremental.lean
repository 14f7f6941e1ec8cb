import Mathlib
import RollupWallet.Proofs.Hash.Keccak
import RollupWallet.Proofs.Hash.Mimc

/-!
# Hashing piece by piece

Bytes may be written in pieces, and digests may be taken between the pieces.  The first makes no
difference, since all that is written waits in the buffer (`Sponge.write_write`).  The second makes
one: a digest closes the block that is being filled, and an empty buffer counts as a block of zeros.

So what is absorbed stays the same only if every digest that is taken on the way finds whole blocks in
the buffer, at least one, and something is written after it (`Mimc.blocks_append`).  It is the buffer
that counts and not the last piece: whole blocks behind a byte that was written before are cut
elsewhere, and then the digest is another one (`Sponge.sum_ne_of_waiting`).

A digest leaves nothing behind but the chaining value, and a reset not even that, so what was done
with a sponge before a reset shows in no digest after it (`Sponge.digests_reset`).
-/

namespace RollupWallet.Hash

open Mimc

/-! ### Blocks -/

namespace Mimc

theorem blocks_cons {block rest : Bytes} (hblock : block.length = 32) (hrest : rest ≠ []) :
    blocks (block ++ rest) = block :: blocks rest := by
  have hlength : 32 < (block ++ rest).length := by
    have hpos := List.length_pos_of_ne_nil hrest
    rw [List.length_append]
    omega
  rw [blocks_of_lt hlength, List.take_left' hblock, List.drop_left' hblock]

theorem blocks_singleton {block : Bytes} (hblock : block.length = 32) : blocks block = [block] := by
  rw [blocks_of_le hblock.le, Bytes.padLeft, hblock]
  rfl

/-- **Whole blocks are cut apart from what follows them.** -/
theorem blocks_append {a b : Bytes} (ha : a ≠ []) (hfull : 32 ∣ a.length) (hb : b ≠ []) :
    blocks (a ++ b) = blocks a ++ blocks b := by
  obtain ⟨k, hk⟩ := hfull
  induction k generalizing a with
  | zero => exact absurd (List.length_eq_zero_iff.mp hk) ha
  | succ k ih =>
      by_cases hlast : a.drop 32 = []
      · -- the last of the whole blocks
        have hblock : a.length = 32 := by
          have hle := List.drop_eq_nil_iff.mp hlast
          omega
        rw [blocks_cons hblock hb, blocks_singleton hblock, List.singleton_append]
      · have htake : (a.take 32).length = 32 := by
          rw [List.length_take]
          omega
        have hdrop : (a.drop 32).length = 32 * k := by
          rw [List.length_drop]
          omega
        have hfirst : blocks a = a.take 32 :: blocks (a.drop 32) := by
          rw [← blocks_cons htake hlast, List.take_append_drop]
        have hsplit : a ++ b = a.take 32 ++ (a.drop 32 ++ b) := by
          rw [← List.append_assoc, List.take_append_drop]
        rw [hsplit, blocks_cons htake (List.append_ne_nil_of_right_ne_nil _ hb), ih hlast hdrop,
          hfirst, List.cons_append]

/-! The constants of the rounds, with arithmetic on numbers. -/

/-- A chain of digests that starts after a word. -/
def laneDigests : (count : ℕ) → (word : Bytes) → List Bytes
  | 0, _ => []
  | count + 1, word =>
    let next := Keccak.Lanes.hash word
    next :: laneDigests count next

theorem bytes_digests (count : ℕ) (word : Bytes32) :
    (digests count word).map (·.bytes) = laneDigests count word.bytes := by
  induction count generalizing word with
  | zero => rfl
  | succ count ih =>
      rw [digests, List.map_cons, ih, bytes_keccak256]
      rfl

theorem constants_eq_laneDigests :
    constants = (laneDigests rounds (Keccak.Lanes.hash [115, 101, 101, 100])).map Felt.reduce := by
  rw [constants, ← bytes_keccak256, ← bytes_digests, List.map_map]
  rfl

end Mimc

/-! ### Pieces -/

namespace Sponge

theorem write_write (sponge : Sponge) (a b : Bytes) :
    (sponge.write a).write b = sponge.write (a ++ b) := by
  rw [write, write, write, List.append_assoc]

/-- **A digest between whole blocks and something more changes nothing.** -/
theorem sum_write_sum {sponge : Sponge} {b : Bytes} (hbuffer : sponge.buffer ≠ [])
    (hfull : 32 ∣ sponge.buffer.length) (hb : b ≠ []) :
    (sponge.sum.2.write b).sum = (sponge.write b).sum := by
  have hchain : (blocks ([] ++ b)).foldl mix ((blocks sponge.buffer).foldl mix sponge.chain) =
      (blocks (sponge.buffer ++ b)).foldl mix sponge.chain := by
    rw [blocks_append hbuffer hfull hb, List.foldl_append, List.nil_append]
  simp only [sum, write, hchain]

/-! ### Runs -/

/-- Something that is done with a sponge. -/
inductive Use where
  | write (bytes : Bytes)
  | element (word : Bytes32)
  | sum
  | reset

/-- What a use leaves of the sponge.  A word that is refused changes nothing. -/
def Use.next (sponge : Sponge) : Use → Sponge
  | write bytes => sponge.write bytes
  | element word => (sponge.writeElement? word).getD sponge
  | sum => sponge.sum.2
  | reset => sponge.reset

/-- The digest that a use gives. -/
def Use.digest? (sponge : Sponge) : Use → Option Bytes32
  | sum => some sponge.sum.1
  | _ => none

/-- The sponge after a row of uses. -/
def after (sponge : Sponge) (uses : List Use) : Sponge := uses.foldl Use.next sponge

/-- The digests that a row of uses gives. -/
def digests : Sponge → List Use → List Bytes32
  | _, [] => []
  | sponge, use :: uses => (use.digest? sponge).toList ++ digests (use.next sponge) uses

/-- **What uses leave of a sponge is all that later uses see.** -/
theorem digests_append (sponge : Sponge) (uses later : List Use) :
    sponge.digests (uses ++ later) = sponge.digests uses ++ (sponge.after uses).digests later := by
  induction uses generalizing sponge with
  | nil => rfl
  | cons use uses ih =>
      rw [List.cons_append, digests, digests, ih, List.append_assoc]
      rfl

/-- **After a reset the digests are those of a new sponge.** -/
theorem digests_reset (sponge : Sponge) (uses later : List Use) :
    sponge.digests (uses ++ .reset :: later) = sponge.digests uses ++ empty.digests later := by
  rw [digests_append]
  rfl

/-- **Hashing piece by piece.**  Pieces that are written one after the other count as one.  If the
buffer holds whole blocks or nothing, a digest may be taken between whole blocks and what follows
them.  After any uses, a reset leaves a sponge with the digests of a new one. -/
theorem sum_piecewise (sponge : Sponge) :
    (∀ a b : Bytes, ((sponge.write a).write b).sum = (sponge.write (a ++ b)).sum) ∧
      (∀ a b : Bytes, 32 ∣ sponge.buffer.length → a ≠ [] → 32 ∣ a.length → b ≠ [] →
        ((sponge.write a).sum.2.write b).sum = (sponge.write (a ++ b)).sum) ∧
      ∀ uses later : List Use,
        ((sponge.after uses).reset).digests later = empty.digests later ∧
          sponge.digests (uses ++ .reset :: later) = sponge.digests uses ++ empty.digests later := by
  refine ⟨fun a b => ?_, fun a b hbuffer ha hfull hb => ?_, fun uses later => ?_⟩
  · rw [write_write]
  · have hne : (sponge.write a).buffer ≠ [] := List.append_ne_nil_of_right_ne_nil _ ha
    have hwhole : 32 ∣ (sponge.write a).buffer.length := by
      rw [write, List.length_append]
      exact Nat.dvd_add hbuffer hfull
    rw [sum_write_sum hne hwhole hb, write_write]
  · exact ⟨rfl, digests_reset sponge uses later⟩

/-- A digest between two blocks and one byte, with one block waiting before them. -/
theorem sum_piecewise_waiting :
    32 ∣ (List.replicate 32 (1 : UInt8)).length ∧ List.replicate 64 (2 : UInt8) ≠ [] ∧
      32 ∣ (List.replicate 64 (2 : UInt8)).length ∧ [(3 : UInt8)] ≠ [] ∧
      (((Sponge.mk (List.replicate 32 1) 4).write (List.replicate 64 2)).sum.2.write [3]).sum =
        ((Sponge.mk (List.replicate 32 1) 4).write (List.replicate 64 2 ++ [3])).sum := by
  have hbuffer : 32 ∣ (List.replicate 32 (1 : UInt8)).length := by decide
  have hpiece : 32 ∣ (List.replicate 64 (2 : UInt8)).length := by decide
  have hne : List.replicate 64 (2 : UInt8) ≠ [] := by decide
  have hlast : [(3 : UInt8)] ≠ [] := by decide
  exact ⟨hbuffer, hne, hpiece, hlast,
    (sum_piecewise ⟨List.replicate 32 1, 4⟩).2.1 _ _ hbuffer hne hpiece hlast⟩

/-! ### A byte that waits -/

theorem sum_eq (sponge : Sponge) :
    sponge.sum = ((run sponge.chain (absorbed sponge.buffer)).toBytes32,
      ⟨[], run sponge.chain (absorbed sponge.buffer)⟩) := by
  rw [sum, run, absorbed, List.foldl_map]
  rfl

/-- The block that a byte begins and zeros fill up. -/
def shifted : Felt := Felt.reduce (1 :: List.replicate 31 0)

theorem absorbed_waiting : absorbed ([1] ++ List.replicate 32 0) = [shifted, 0] := by
  rw [absorbed_eq]
  decide +kernel

theorem absorbed_waiting_more : absorbed ([1] ++ (List.replicate 32 0 ++ [2])) = [shifted, 2] := by
  rw [absorbed_eq]
  decide +kernel

theorem run_waiting_ne : run (run 0 [shifted, 0]) [2] ≠ run 0 [shifted, 2] := by
  unfold run step
  rw [constants_eq_laneDigests]
  decide +kernel

/-- **A byte that waits in the buffer cuts whole blocks elsewhere**, and then it matters whether a
digest is taken behind them. -/
theorem sum_ne_of_waiting :
    List.replicate 32 (0 : UInt8) ≠ [] ∧ 32 ∣ (List.replicate 32 (0 : UInt8)).length ∧
      [(2 : UInt8)] ≠ [] ∧
      (((empty.write [1]).write (List.replicate 32 0)).sum.2.write [2]).sum.1 ≠
        ((empty.write [1]).write (List.replicate 32 0 ++ [2])).sum.1 := by
  have hlast : absorbed [2] = [2] := by
    rw [absorbed_eq]
    decide
  have hpieces : (((empty.write [1]).write (List.replicate 32 0)).sum.2.write [2]).sum.1 =
      (run (run 0 [shifted, 0]) [2]).toBytes32 := by
    rw [sum_eq, sum_eq]
    simp only [write, empty, List.nil_append, absorbed_waiting, hlast]
  have hwhole : ((empty.write [1]).write (List.replicate 32 0 ++ [2])).sum.1 =
      (run 0 [shifted, 2]).toBytes32 := by
    rw [sum_eq]
    simp only [write, empty, List.nil_append, absorbed_waiting_more]
  refine ⟨by decide, by decide, by decide, ?_⟩
  rw [hpieces, hwhole]
  exact Felt.toBytes32_injective.ne run_waiting_ne

end Sponge

end RollupWallet.Hash
