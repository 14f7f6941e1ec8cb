import Mathlib
import RollupWallet.Arith.Power

/-!
# What powers by squaring compute

`power` reads an exponent bit by bit.  Whatever a product of representatives represents, a power
represents as well (`power_induct`): if the unit stands for `0`, the base for `1`, and products for
sums, then `power mul one x n` stands for `n`.  Powers of residues and multiples of points are both
instances, so neither needs to know how the bits are read.
-/

namespace RollupWallet.Arith

variable {α : Type} {mul : α → α → α} {one x : α} {R : α → ℕ → Prop}

/-- One step of `power`: a square, and one more factor if the bit is set. -/
def powerStep (mul : α → α → α) (x acc : α) (bit : Bool) : α :=
  if bit then mul (mul acc acc) x else mul acc acc

theorem power_eq_foldl (n : ℕ) : power mul one x n = (bits n).foldl (powerStep mul x) one := rfl

/-- The `k` low bits of a number, most significant first. -/
def lowBits (n k : ℕ) : List Bool := ((List.range k).map n.testBit).reverse

theorem lowBits_succ (n k : ℕ) : lowBits n (k + 1) = n.testBit k :: lowBits n k := by
  simp [lowBits, List.range_succ]

theorem bits_eq_lowBits (n : ℕ) : bits n = lowBits n (n.log2 + 1) := rfl

/-- A step turns a representative of `m` into one of `2 m` plus the bit. -/
theorem powerStep_induct (hx : R x 1) (hmul : ∀ {a b m n}, R a m → R b n → R (mul a b) (m + n))
    {acc : α} {m : ℕ} (hacc : R acc m) (bit : Bool) :
    R (powerStep mul x acc bit) (2 * m + bit.toNat) := by
  have hsquare : R (mul acc acc) (2 * m) := two_mul m ▸ hmul hacc hacc
  cases bit with
  | false => exact hsquare
  | true => exact hmul hsquare hx

/-- Reading the `k` low bits of `n` from a representative of `m` shifts `m` by `k` places and adds
those bits. -/
theorem foldl_lowBits_induct (hx : R x 1)
    (hmul : ∀ {a b m n}, R a m → R b n → R (mul a b) (m + n)) (n k : ℕ) :
    ∀ {acc : α} {m : ℕ}, R acc m →
      R ((lowBits n k).foldl (powerStep mul x) acc) (m * 2 ^ k + n % 2 ^ k) := by
  induction k with
  | zero =>
      intro acc m hacc
      simpa [lowBits, Nat.mod_one] using hacc
  | succ k ih =>
      intro acc m hacc
      have hstep := ih (powerStep_induct hx hmul hacc (n.testBit k))
      have hvalue : (2 * m + (n.testBit k).toNat) * 2 ^ k + n % 2 ^ k =
          m * 2 ^ (k + 1) + n % 2 ^ (k + 1) := by
        rw [Nat.mod_pow_succ, ← Nat.toNat_testBit]
        ring
      rw [lowBits_succ, List.foldl_cons]
      exact hvalue ▸ hstep

/-- **A power stands for its exponent** whenever the unit stands for `0`, the base for `1` and
products for sums. -/
theorem power_induct (hone : R one 0) (hx : R x 1)
    (hmul : ∀ {a b m n}, R a m → R b n → R (mul a b) (m + n)) (n : ℕ) :
    R (power mul one x n) n := by
  have hbits := foldl_lowBits_induct hx hmul n (n.log2 + 1) hone
  rw [zero_mul, zero_add, Nat.mod_eq_of_lt Nat.lt_log2_self] at hbits
  rw [power_eq_foldl, bits_eq_lowBits]
  exact hbits

end RollupWallet.Arith
