import Mathlib
import RollupWallet.Arith.Modular
import RollupWallet.Proofs.Arith.Power

/-!
# Residues modulo an odd prime are a field

`Fin p` has its ring structure from the library.  What is added here is that `Arith.pow` computes the
powers of that ring (`val_pow`, `pow_eq`) and that `Arith.inv`, a power by Fermat's theorem, computes
its inverses (`mul_inv_cancel`), so that residues modulo an odd prime are a field whose inverse is the
one that runs (`primeField`).

Two is left out because `0 ^ (p - 2)` is one there.
-/

namespace RollupWallet.Arith

variable {p : ℕ}

/-- Powers of residues, as integers. -/
theorem val_pow (x : Fin p) (n : ℕ) : (pow x n).val = x.val ^ n % p := by
  refine power_induct (R := fun (a : Fin p) n => a.val = x.val ^ n % p) ?_ ?_ ?_ n
  · simp [unit]
  · rw [pow_one, Nat.mod_eq_of_lt x.isLt]
  · intro a b m n ha hb
    rw [Fin.val_mul, ha, hb, ← Nat.mul_mod, pow_add]

section

variable [NeZero p]

open scoped Fin.CommRing

theorem unit_eq_one (x : Fin p) : unit x = 1 := by
  ext
  simp [unit]

/-- Powers by squaring are the powers of the ring. -/
theorem pow_eq (x : Fin p) (n : ℕ) : pow x n = x ^ n := by
  refine power_induct (R := fun (a : Fin p) n => a = x ^ n) ?_ ?_ ?_ n
  · rw [unit_eq_one, pow_zero]
  · rw [pow_one]
  · rintro a b m n rfl rfl
    rw [pow_add]

end

/-- Fermat's theorem. -/
theorem val_pow_sub_one {x : ℕ} (hp : p.Prime) (hx : x % p ≠ 0) : x ^ (p - 1) % p = 1 := by
  have hcoprime : x.Coprime p :=
    (hp.coprime_iff_not_dvd.mpr fun hdvd => hx (Nat.mod_eq_zero_of_dvd hdvd)).symm
  have hfermat := Nat.ModEq.pow_totient hcoprime
  rw [Nat.totient_prime hp] at hfermat
  exact Eq.trans hfermat (Nat.mod_eq_of_lt hp.one_lt)

theorem mul_inv_cancel (hp : p.Prime) [NeZero p] {x : Fin p} (hx : x ≠ 0) : x * inv x = 1 := by
  have hval : x.val % p ≠ 0 := by
    rw [Nat.mod_eq_of_lt x.isLt]
    exact fun h => hx (Fin.ext h)
  have hexp : p - 2 + 1 = p - 1 := by have := hp.two_le; omega
  ext
  rw [Fin.val_mul, inv, val_pow, Nat.mul_mod_mod, ← pow_succ', hexp, val_pow_sub_one hp hval,
    Fin.val_one', Nat.mod_eq_of_lt hp.one_lt]

theorem inv_zero (h2 : 2 < p) [NeZero p] : inv (0 : Fin p) = 0 := by
  ext
  rw [inv, val_pow, Fin.val_zero, Nat.zero_pow (by omega), Nat.zero_mod]

open scoped Fin.CommRing in
/-- The field of residues modulo an odd prime, with the inverse that `Arith.inv` computes. -/
abbrev primeField (hp : p.Prime) (h2 : 2 < p) [NeZero p] : Field (Fin p) where
  toCommRing := Fin.instCommRing p
  inv := inv
  div a b := a * inv b
  div_eq_mul_inv _ _ := rfl
  exists_pair_ne := ⟨0, 1, by
    intro h
    have hval := congrArg Fin.val h
    rw [Fin.val_zero, Fin.val_one', Nat.mod_eq_of_lt hp.one_lt] at hval
    omega⟩
  mul_inv_cancel _ hx := mul_inv_cancel hp hx
  inv_zero := inv_zero h2
  nnqsmul := _
  nnqsmul_def _ _ := rfl
  qsmul := _
  qsmul_def _ _ := rfl

end RollupWallet.Arith
