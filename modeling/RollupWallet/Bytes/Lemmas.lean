import Mathlib
import RollupWallet.Bytes.Basic

/-!
# Numbers in bytes

The integer that a byte string writes is bounded by its length (`Bytes.toNat_lt`), and writing an
integer keeps it up to the width it is given (`Bytes.toNat_ofNat`).
-/

namespace RollupWallet

namespace Bytes

/-- Writing keeps an integer up to the width it is given. -/
theorem toNat_ofNat (width value : Nat) : toNat (ofNat width value) = value % 256 ^ width := by
  induction width generalizing value with
  | zero => simp [ofNat, Nat.mod_one]
  | succ width ih =>
    have hbyte : (UInt8.ofNat (value % 256)).toNat = value % 256 := by
      simp
    rw [ofNat, toNat_append_singleton, ih, hbyte, Nat.pow_succ', Nat.mod_mul, Nat.mul_comm,
      Nat.add_comm]

theorem toNat_lt (bytes : Bytes) : toNat bytes < 256 ^ bytes.length := by
  induction h : bytes.length generalizing bytes with
  | zero => simp [List.length_eq_zero_iff.mp h]
  | succ n ih =>
    have hne : bytes ≠ [] := by intro hnil; simp [hnil] at h
    have hsplit := List.dropLast_concat_getLast hne
    have hlast := (bytes.getLast hne).toNat_lt
    have hprev := ih bytes.dropLast (by simp [h])
    rw [← hsplit, toNat_append_singleton, Nat.pow_succ]
    omega

end Bytes

namespace FixedBytes

variable {n : Nat}

theorem toNat_ofNat (value : Nat) : (ofNat n value).toNat = value % 256 ^ n :=
  Bytes.toNat_ofNat n value

theorem toNat_lt (word : FixedBytes n) : word.toNat < 256 ^ n := by
  have h := Bytes.toNat_lt word.bytes
  rw [word.length_eq] at h
  exact h

end FixedBytes

end RollupWallet
