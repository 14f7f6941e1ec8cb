import Mathlib
import RollupWallet.Amount.Packed

/-!
# What packing keeps of an amount

Packing drops the fewest digits that let the mantissa fit (`PackedAmount.Packs`).  Every amount has
one such form (`PackedAmount.packs_shorten`, `PackedAmount.Packs.unique`), so an amount that is not
too large is packed as it and nothing else (`PackedAmount.ofNat?_eq_some_iff`).  What is dropped is
less than one unit of the last digit that is kept, and since a mantissa is large once a digit has
been dropped (`PackedAmount.Packs.leastMantissa_le`), it is a tiny part of the amount
(`PackedAmount.Packs.leastMantissa_mul_lt`).

Packing does not keep the order of amounts.  Where the larger one needs one more digit dropped, the
smaller one keeps a digit that the larger one loses, and if they are close the smaller one comes out
ahead (`PackedAmount.Packs.toNat_lt_toNat_iff`).  This happens only next to the first amount that
needs the digit dropped, which leaves `leastMantissa`.
-/

namespace RollupWallet.PackedAmount

/-- The smallest mantissa that is left once a digit has been dropped. -/
def leastMantissa : ℕ := (maxMantissa + 1) / 10

theorem maxMantissa_eq : maxMantissa = 34359738367 := rfl

theorem leastMantissa_eq : leastMantissa = 3435973836 := rfl

theorem toNat_eq (packed : PackedAmount) :
    packed.toNat = packed.mantissa * 10 ^ packed.exponent := rfl

/-- The fewest digits are dropped from the end of an amount that let the mantissa fit. -/
structure Packs (packed : PackedAmount) (amount : ℕ) : Prop where
  mantissa_eq : packed.mantissa = amount / 10 ^ packed.exponent
  mantissa_le : packed.mantissa ≤ maxMantissa
  least : ∀ e < packed.exponent, maxMantissa < amount / 10 ^ e

/-! ### Packing drops the fewest digits -/

/-- Shortening counts the digits that it drops, and it drops none from a mantissa that fits. -/
theorem exists_shorten_eq (mantissa exponent : ℕ) :
    ∃ k, shorten mantissa exponent = ⟨mantissa / 10 ^ k, exponent + k⟩ ∧
      mantissa / 10 ^ k ≤ maxMantissa ∧ ∀ j < k, maxMantissa < mantissa / 10 ^ j := by
  induction mantissa, exponent using shorten.induct with
  | case1 mantissa exponent hlarge ih =>
      obtain ⟨k, hshorten, hfits, hleast⟩ := ih
      have hdrop : ∀ j, mantissa / 10 / 10 ^ j = mantissa / 10 ^ (j + 1) := by
        intro j
        rw [Nat.div_div_eq_div_mul, Nat.pow_succ']
      rw [hdrop] at hshorten hfits
      refine ⟨k + 1, ?_, hfits, ?_⟩
      · rw [shorten, if_pos hlarge, hshorten, Nat.add_assoc, Nat.add_comm 1]
      · intro j hj
        cases j with
        | zero => rwa [Nat.pow_zero, Nat.div_one]
        | succ j => exact hdrop j ▸ hleast j (Nat.lt_of_succ_lt_succ hj)
  | case2 mantissa exponent hfits =>
      refine ⟨0, ?_, ?_, nofun⟩
      · rw [shorten, if_neg hfits, Nat.pow_zero, Nat.div_one, Nat.add_zero]
      · rwa [Nat.pow_zero, Nat.div_one, ← Nat.not_lt]

theorem packs_shorten (amount : ℕ) : (shorten amount 0).Packs amount := by
  obtain ⟨k, hshorten, hfits, hleast⟩ := exists_shorten_eq amount 0
  rw [Nat.zero_add] at hshorten
  rw [hshorten]
  exact ⟨rfl, hfits, hleast⟩

namespace Packs

variable {p q : PackedAmount} {a b : ℕ}

/-- A larger amount has no fewer digits dropped. -/
theorem exponent_le (hp : p.Packs a) (hq : q.Packs b) (hab : a ≤ b) : p.exponent ≤ q.exponent := by
  by_contra hlt
  have hlarge := hp.least q.exponent (Nat.lt_of_not_le hlt)
  have hfits := hq.mantissa_eq ▸ hq.mantissa_le
  exact absurd (Nat.div_le_div_right hab) (Nat.not_le_of_lt (Nat.lt_of_le_of_lt hfits hlarge))

/-- An amount has one packed form. -/
theorem unique (hp : p.Packs a) (hq : q.Packs a) : p = q := by
  have hexponent : p.exponent = q.exponent :=
    Nat.le_antisymm (hp.exponent_le hq le_rfl) (hq.exponent_le hp le_rfl)
  have hmantissa : p.mantissa = q.mantissa := by rw [hp.mantissa_eq, hq.mantissa_eq, hexponent]
  cases p
  cases q
  exact congrArg₂ PackedAmount.mk hmantissa hexponent

/-- Packing rounds towards zero. -/
theorem toNat_le (hp : p.Packs a) : p.toNat ≤ a := by
  rw [toNat_eq, hp.mantissa_eq]
  exact Nat.div_mul_le_self a _

/-- Less than one unit of the last digit is lost. -/
theorem lt_toNat_add (hp : p.Packs a) : a < p.toNat + 10 ^ p.exponent := by
  rw [toNat_eq, hp.mantissa_eq]
  exact Nat.lt_div_mul_add (Nat.pow_pos (by decide))

/-- Once a digit has been dropped, the mantissa is large. -/
theorem leastMantissa_le (hp : p.Packs a) (hpos : 0 < p.exponent) :
    leastMantissa ≤ p.mantissa := by
  obtain ⟨e, he⟩ : ∃ e, p.exponent = e + 1 := Nat.exists_eq_add_one.mpr hpos
  have hlarge : maxMantissa < a / 10 ^ e := hp.least e (he ▸ Nat.lt_succ_self e)
  have hmantissa : p.mantissa = a / 10 ^ e / 10 := by
    rw [hp.mantissa_eq, he, Nat.pow_succ, Nat.div_div_eq_div_mul]
  rw [hmantissa]
  exact Nat.div_le_div_right hlarge

/-- The exponent is the least one with a mantissa that fits. -/
theorem isLeast (hp : p.Packs a) : IsLeast {e | a / 10 ^ e ≤ maxMantissa} p.exponent := by
  refine ⟨?_, ?_⟩
  · rw [Set.mem_ofPred_eq, ← hp.mantissa_eq]
    exact hp.mantissa_le
  · intro e hfits
    by_contra hlt
    exact absurd (hp.least e (Nat.lt_of_not_le hlt)) (Nat.not_lt_of_le hfits)

/-- What is lost is less than one part in `leastMantissa`. -/
theorem leastMantissa_mul_lt (hp : p.Packs a) (ha : 0 < a) :
    leastMantissa * (a - p.toNat) < p.toNat := by
  have hlost : a - p.toNat < 10 ^ p.exponent :=
    Nat.sub_lt_left_of_lt_add hp.toNat_le hp.lt_toNat_add
  rcases Nat.eq_zero_or_pos p.exponent with hzero | hpos
  · -- nothing was dropped, so nothing is lost
    rw [hzero, Nat.pow_zero, Nat.lt_one_iff] at hlost
    have hle : a ≤ p.toNat := Nat.sub_eq_zero_iff_le.mp hlost
    rw [hlost, Nat.mul_zero]
    exact Nat.lt_of_lt_of_le ha hle
  · calc leastMantissa * (a - p.toNat)
        < leastMantissa * 10 ^ p.exponent := Nat.mul_lt_mul_of_pos_left hlost (by decide)
      _ ≤ p.toNat := Nat.mul_le_mul_right _ (hp.leastMantissa_le hpos)

/-- What falls short of an amount by one part in `leastMantissa + 1` stays below its packed value. -/
theorem le_toNat_of_mul_le (hp : p.Packs a) (h : (leastMantissa + 1) * b ≤ leastMantissa * a) :
    b ≤ p.toNat := by
  have hle := hp.toNat_le
  rw [leastMantissa_eq] at h
  rcases Nat.eq_zero_or_pos a with rfl | ha
  · omega
  · have hlost := hp.leastMantissa_mul_lt ha
    rw [leastMantissa_eq] at hlost
    omega

/-- An amount that can be packed has an exponent that does. -/
theorem exponent_le_maxExponent (hp : p.Packs a) (ha : a ≤ maxAmount) :
    p.exponent ≤ maxExponent := by
  apply hp.isLeast.2
  have hmax : maxAmount / 10 ^ maxExponent = maxMantissa :=
    Nat.mul_div_cancel _ (Nat.pow_pos (by decide))
  rw [Set.mem_ofPred_eq, ← hmax]
  exact Nat.div_le_div_right ha

/-- **When packing reverses the order of two amounts.**  One more digit of the larger one is dropped,
which leaves the smallest mantissa, and the smaller one keeps a digit above that. -/
theorem toNat_lt_toNat_iff (hp : p.Packs a) (hq : q.Packs b) (hab : a ≤ b) :
    q.toNat < p.toNat ↔ q.exponent = p.exponent + 1 ∧ q.mantissa = leastMantissa ∧
      10 * leastMantissa < p.mantissa := by
  obtain ⟨k, hk⟩ := Nat.exists_eq_add_of_le (hp.exponent_le hq hab)
  have hunit : 0 < 10 ^ p.exponent := Nat.pow_pos (by decide)
  have hle := hp.mantissa_le
  have hvalue : q.toNat = q.mantissa * 10 ^ k * 10 ^ p.exponent := by
    rw [toNat_eq, hk, Nat.pow_add, Nat.mul_assoc, Nat.mul_comm (10 ^ p.exponent)]
  rw [hvalue, toNat_eq, Nat.mul_lt_mul_right hunit, hk]
  -- it comes down to how many more digits of the larger amount are dropped
  match k with
  | 0 =>
      have hmantissa : p.mantissa ≤ q.mantissa := by
        rw [hp.mantissa_eq, hq.mantissa_eq, hk]
        exact Nat.div_le_div_right hab
      omega
  | 1 =>
      have hleast := hq.leastMantissa_le (by omega)
      rw [maxMantissa_eq] at hle
      rw [leastMantissa_eq] at hleast ⊢
      omega
  | k + 2 =>
      have hleast := hq.leastMantissa_le (by omega)
      have hhundred : q.mantissa * 100 ≤ q.mantissa * 10 ^ (k + 2) :=
        Nat.mul_le_mul_left _ (Nat.pow_le_pow_right (by decide : 0 < 10) (Nat.le_add_left 2 k))
      rw [maxMantissa_eq] at hle
      rw [leastMantissa_eq] at hleast ⊢
      omega

end Packs

/-! ### The amounts that can be packed -/

/-- **An amount is packed exactly if it is not too large**, and in the one form there is. -/
theorem ofNat?_eq_some_iff {amount : ℕ} {packed : PackedAmount} :
    ofNat? amount = some packed ↔ amount ≤ maxAmount ∧ packed.Packs amount := by
  unfold ofNat?
  split
  · next hlarge => exact ⟨nofun, fun ⟨hle, _⟩ => absurd hle (Nat.not_le_of_lt hlarge)⟩
  · next hle =>
    rw [Option.some.injEq]
    refine ⟨?_, fun ⟨_, hpacks⟩ => (packs_shorten amount).unique hpacks⟩
    rintro rfl
    exact ⟨Nat.le_of_not_lt hle, packs_shorten amount⟩

theorem exists_ofNat?_iff {amount : ℕ} :
    (∃ packed, ofNat? amount = some packed) ↔ amount ≤ maxAmount := by
  simp only [ofNat?_eq_some_iff, exists_and_left]
  exact and_iff_left ⟨_, packs_shorten amount⟩

theorem ofNat?_eq_none_iff {amount : ℕ} : ofNat? amount = none ↔ maxAmount < amount := by
  rw [← Nat.not_le, ← exists_ofNat?_iff, ← Option.ne_none_iff_exists', not_not]

/-- **Packing drops the fewest digits.**  An amount is refused exactly if it is too large.  Otherwise
its packed form has the least exponent with a mantissa that fits, and what it stands for falls short
of the amount by less than one unit of its last digit, which is less than one part in 3435973836. -/
theorem packing_drops_fewest (amount : ℕ) :
    (ofNat? amount = none ↔ (2 ^ 35 - 1) * 10 ^ 31 < amount) ∧
      (amount ≤ (2 ^ 35 - 1) * 10 ^ 31 → ∃ packed, ofNat? amount = some packed ∧
        IsLeast {e | amount / 10 ^ e ≤ 2 ^ 35 - 1} packed.exponent ∧
        packed.mantissa = amount / 10 ^ packed.exponent ∧ packed.exponent ≤ 31 ∧
        packed.toNat = packed.mantissa * 10 ^ packed.exponent ∧
        packed.toNat ≤ amount ∧ amount < packed.toNat + 10 ^ packed.exponent ∧
        (0 < packed.exponent → 3435973836 ≤ packed.mantissa) ∧
        (0 < amount → 3435973836 * (amount - packed.toNat) < packed.toNat)) := by
  refine ⟨ofNat?_eq_none_iff, fun hle => ?_⟩
  obtain ⟨packed, hpacked⟩ := exists_ofNat?_iff.mpr hle
  have hpacks : packed.Packs amount := (ofNat?_eq_some_iff.mp hpacked).2
  exact ⟨packed, hpacked, hpacks.isLeast, hpacks.mantissa_eq, hpacks.exponent_le_maxExponent hle,
    packed.toNat_eq, hpacks.toNat_le, hpacks.lt_toNat_add, hpacks.leastMantissa_le,
    hpacks.leastMantissa_mul_lt⟩

/-- The first amount that loses a digit. -/
theorem packing_drops_fewest_first :
    34359738368 ≤ (2 ^ 35 - 1) * 10 ^ 31 ∧ 0 < 34359738368 ∧
      ∃ packed, ofNat? 34359738368 = some packed ∧ packed = ⟨3435973836, 1⟩ ∧
        IsLeast {e | 34359738368 / 10 ^ e ≤ 2 ^ 35 - 1} packed.exponent ∧
        3435973836 ≤ packed.mantissa ∧
        3435973836 * (34359738368 - packed.toNat) < packed.toNat := by
  have hform : ofNat? 34359738368 = some ⟨3435973836, 1⟩ := by decide +kernel
  obtain ⟨packed, hpacked, hleast, _, _, _, _, _, hlarge, hlost⟩ :=
    (packing_drops_fewest 34359738368).2 (by decide)
  obtain rfl := Option.some.inj (hform.symm.trans hpacked)
  exact ⟨by decide, by decide, _, hpacked, rfl, hleast, hlarge (by decide), hlost (by decide)⟩

/-- The first amount that loses a digit comes out behind the one before it. -/
example : (ofNat? 34359738367).map toNat = some 34359738367 ∧
    (ofNat? 34359738368).map toNat = some 34359738360 := by decide +kernel

end RollupWallet.PackedAmount
