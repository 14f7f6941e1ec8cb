import Mathlib
import RollupWallet.Proofs.Amount.Bits

/-!
# The liquidity of a first deposit

The liquidity is the square root of a product, rounded down twice: to a whole number, and then to what
a packed form stands for.

The product may be far larger than any amount that can be packed.  This does no harm, since only its
root is packed, and the root of a product of two amounts is not above the larger of them
(`sqrt_mul_le`).

The two roundings add up to less than one unit and one part in `PackedAmount.leastMantissa`.  That
part is one of the amount that is packed, but packing takes so little that it may as well be counted
in what is left (`PackedAmount.Packs.le_toNat_add`), and this is known to whoever sees the liquidity.
-/

namespace RollupWallet

/-! ### The root -/

/-- The interval that is halved always has the root in it, so the root is what is left. -/
theorem sqrtBetween_eq {n low high : ℕ} (hlow : low ≤ n.sqrt) (hhigh : n.sqrt < high) :
    sqrtBetween n low high = n.sqrt := by
  induction low, high using sqrtBetween.induct n with
  | case1 low high hwide middle hmiddle ih =>
      -- the root is in the upper half
      rw [sqrtBetween, if_pos hwide, if_pos hmiddle]
      exact ih (Nat.le_sqrt.mpr hmiddle) hhigh
  | case2 low high hwide middle hmiddle ih =>
      -- the root is in the lower half
      rw [sqrtBetween, if_pos hwide, if_neg hmiddle]
      exact ih hlow (Nat.sqrt_lt.mpr (Nat.lt_of_not_le hmiddle))
  | case3 low high hnarrow =>
      rw [sqrtBetween, if_neg hnarrow]
      omega

/-- **The root is the largest number whose square is not above the number.** -/
theorem floorSqrt_eq (n : ℕ) : floorSqrt n = n.sqrt := by
  apply sqrtBetween_eq (Nat.zero_le _)
  rw [Nat.sqrt_lt]
  calc n < 2 ^ (n.log2 + 1) := Nat.lt_log2_self
    _ ≤ 2 ^ ((n.log2 / 2 + 1) + (n.log2 / 2 + 1)) := by
      apply Nat.pow_le_pow_right (by decide)
      omega
    _ = 2 ^ (n.log2 / 2 + 1) * 2 ^ (n.log2 / 2 + 1) := Nat.pow_add _ _ _

theorem liquidityAmount_eq (a b : ℕ) : liquidityAmount a b = packAmount (a * b).sqrt := by
  rw [liquidityAmount, floorSqrt_eq]

/-- The root of a product is not above a bound of the factors. -/
theorem sqrt_mul_le {a b bound : ℕ} (ha : a ≤ bound) (hb : b ≤ bound) : (a * b).sqrt ≤ bound := by
  calc (a * b).sqrt
      ≤ (bound * bound).sqrt := Nat.sqrt_le_sqrt (Nat.mul_le_mul ha hb)
    _ = bound := Nat.sqrt_eq bound

/-! ### The two roundings -/

theorem exists_packAmount_iff {amount : ℕ} :
    (∃ value, packAmount amount = .ok value) ↔ amount ≤ PackedAmount.maxAmount := by
  rw [← PackedAmount.exists_ofNat?_iff]
  constructor
  · rintro ⟨value, hvalue⟩
    obtain ⟨packed, hpacked, -⟩ := packAmount_eq_ok_iff.mp hvalue
    exact ⟨packed, hpacked⟩
  · rintro ⟨packed, hpacked⟩
    exact ⟨packed.toNat, packAmount_eq_ok_iff.mpr ⟨packed, hpacked, rfl⟩⟩

/-- What packing takes away is found in what it leaves. -/
theorem PackedAmount.Packs.le_toNat_add {packed : PackedAmount} {amount : ℕ}
    (h : packed.Packs amount) : amount ≤ packed.toNat + packed.toNat / leastMantissa := by
  rcases Nat.eq_zero_or_pos amount with rfl | hpos
  · exact Nat.zero_le _
  · have hlost : amount - packed.toNat ≤ packed.toNat / leastMantissa := by
      rw [Nat.le_div_iff_mul_le (by decide), Nat.mul_comm]
      exact (h.leastMantissa_mul_lt hpos).le
    omega

/-- **The liquidity of a first deposit.**  There is one exactly if the root of the product of the two
amounts can be packed, and so whenever both amounts can.  Its square is not above the product, it
falls short of the root by less than one unit and one part in 3435973836 of itself, and it is packed
as it is. -/
theorem liquidity_near_root (a b : ℕ) :
    ((∃ v, liquidityAmount a b = .ok v) ↔ (a * b).sqrt ≤ (2 ^ 35 - 1) * 10 ^ 31) ∧
      ((∃ p, PackedAmount.ofNat? a = some p) → (∃ q, PackedAmount.ofNat? b = some q) →
        ∃ v, liquidityAmount a b = .ok v) ∧
      ∀ v, liquidityAmount a b = .ok v →
        v * v ≤ a * b ∧ a * b < (v + v / 3435973836 + 1) ^ 2 ∧ packAmount v = .ok v := by
  rw [liquidityAmount_eq]
  refine ⟨exists_packAmount_iff, fun ha hb => ?_, fun v hv => ?_⟩
  · apply exists_packAmount_iff.mpr
    exact sqrt_mul_le (PackedAmount.exists_ofNat?_iff.mp ha) (PackedAmount.exists_ofNat?_iff.mp hb)
  · refine ⟨?_, ?_, packAmount_eq_self hv⟩
    all_goals
      obtain ⟨packed, hpacked, rfl⟩ := packAmount_eq_ok_iff.mp hv
      have hpacks : packed.Packs (a * b).sqrt := (PackedAmount.ofNat?_eq_some_iff.mp hpacked).2
    · exact Nat.le_sqrt.mp hpacks.toNat_le
    · have hroot : (a * b).sqrt < packed.toNat + packed.toNat / 3435973836 + 1 :=
        Nat.lt_succ_of_le hpacks.le_toNat_add
      exact Nat.sqrt_lt'.mp hroot

/-- Two amounts whose product has sixty-one digits, more than any amount that can be packed. -/
theorem liquidity_near_root_large :
    (∃ p, PackedAmount.ofNat? (10 ^ 30) = some p) ∧
      (∃ q, PackedAmount.ofNat? (3 * 10 ^ 30) = some q) ∧
      PackedAmount.ofNat? (10 ^ 30 * (3 * 10 ^ 30)) = none ∧
      liquidityAmount (10 ^ 30) (3 * 10 ^ 30) = .ok 1732050807500000000000000000000 ∧
      1732050807500000000000000000000 * 1732050807500000000000000000000 ≤
        10 ^ 30 * (3 * 10 ^ 30) ∧
      10 ^ 30 * (3 * 10 ^ 30) < (1732050807500000000000000000000 +
        1732050807500000000000000000000 / 3435973836 + 1) ^ 2 ∧
      packAmount 1732050807500000000000000000000 = .ok 1732050807500000000000000000000 := by
  have hfirst : ∃ p, PackedAmount.ofNat? (10 ^ 30) = some p :=
    PackedAmount.exists_ofNat?_iff.mpr (by decide)
  have hsecond : ∃ q, PackedAmount.ofNat? (3 * 10 ^ 30) = some q :=
    PackedAmount.exists_ofNat?_iff.mpr (by decide)
  have hproduct : PackedAmount.ofNat? (10 ^ 30 * (3 * 10 ^ 30)) = none :=
    PackedAmount.ofNat?_eq_none_iff.mpr (by decide)
  have hliquidity : liquidityAmount (10 ^ 30) (3 * 10 ^ 30) =
      .ok 1732050807500000000000000000000 := by
    decide +kernel
  obtain ⟨_, hboth, hnear⟩ := liquidity_near_root (10 ^ 30) (3 * 10 ^ 30)
  obtain ⟨v, hv⟩ := hboth hfirst hsecond
  obtain rfl := Except.ok.inj (hliquidity.symm.trans hv)
  obtain ⟨hsquare, hnext, hpacked⟩ := hnear _ hv
  exact ⟨hfirst, hsecond, hproduct, hv, hsquare, hnext, hpacked⟩

end RollupWallet
