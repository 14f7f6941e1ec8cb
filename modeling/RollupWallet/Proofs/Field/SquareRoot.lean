import Mathlib
import RollupWallet.Curve.Edwards
import RollupWallet.Proofs.Field.Prime

/-!
# Square roots in the scalar field

`Arith.TwoPart.sqrt?` checks its result, so a root that it returns is a root
(`sqrt?_mul_self`).  The converse is proved here: a square has its root found
(`Felt.exists_sqrt?_eq_some`).

The loop keeps three equations (`descend_mul_self`).  Writing `k` for the rounds that are left,

```text
root * root = a * t        t ^ 2 ^ k = 1        c ^ 2 ^ k = -1
```

The first two hold at the start because `t` is the odd part of a power of a square, the third
because the generator of the two-part comes from a non-square.  When no round is left, `t = 1`.
-/

namespace RollupWallet.Felt

open Arith Curve

/-- Fermat's theorem in the scalar field. -/
theorem pow_modulus_sub_one {x : Felt} (hx : x ≠ 0) : x ^ (fieldModulus - 1) = 1 := by
  have hcard : Fintype.card Felt = fieldModulus := Fintype.card_fin _
  have h := FiniteField.pow_card_sub_one_eq_one x hx
  rw [hcard] at h
  exact h

/-- A non-zero square is one when raised to half the order. -/
theorem pow_half_eq_one_of_isSquare {a : Felt} (ha : a ≠ 0) (hsquare : IsSquare a) :
    a ^ ((fieldModulus - 1) / 2) = 1 := by
  obtain ⟨b, rfl⟩ := hsquare
  have hb : b ≠ 0 := left_ne_zero_of_mul ha
  have hhalf : 2 * ((fieldModulus - 1) / 2) = fieldModulus - 1 := by decide
  rw [← pow_two, ← pow_mul, hhalf, pow_modulus_sub_one hb]

set_option maxRecDepth 20000 in
/-- What is minus one when raised to half the order is no square. -/
theorem not_isSquare_of_pow_half {a : Felt} (ha : Arith.pow a ((fieldModulus - 1) / 2) = -1) :
    ¬ IsSquare a := by
  intro hsquare
  have hne : (-1 : Felt) ≠ 1 := by decide
  have hzero : a ≠ 0 := by
    rintro rfl
    exact absurd ha (by decide)
  rw [pow_eq, pow_half_eq_one_of_isSquare hzero hsquare] at ha
  exact hne ha.symm

/-- The three equations that each round keeps give a root in the end. -/
theorem descend_mul_self {a : Felt} (k : ℕ) :
    ∀ {c root t : Felt}, root * root = a * t → t ^ 2 ^ k = 1 → c ^ 2 ^ k = -1 →
      TwoPart.descend k c root t * TwoPart.descend k c root t = a := by
  induction k with
  | zero =>
      intro c root t hroot ht _
      rw [pow_zero, pow_one] at ht
      rw [TwoPart.descend, hroot, ht, mul_one]
  | succ k ih =>
      intro c root t hroot ht hc
      have hsquare : ∀ x : Felt, (x * x) ^ 2 ^ k = x ^ 2 ^ (k + 1) := by
        intro x
        rw [← pow_two, ← pow_mul, ← pow_succ']
      have hc2 : (c * c) ^ 2 ^ k = -1 := (hsquare c).trans hc
      rw [TwoPart.descend, unit_eq_one, pow_eq]
      split
      · next hone => exact ih hroot hone hc2
      · next hone =>
        -- the power of `t` is a root of one other than one, and `c²` makes up for its sign
        have hsign : t ^ 2 ^ k = -1 := by
          rw [pow_succ, pow_mul, pow_two] at ht
          exact (mul_self_eq_one_iff.mp ht).resolve_left hone
        refine ih ?_ ?_ hc2
        · linear_combination (c * c) * hroot
        · rw [mul_pow, hsign, hc2, neg_one_mul, neg_neg]

/-- From a root of zero the rounds lead to zero. -/
theorem descend_zero (k : ℕ) : ∀ c t : Felt, TwoPart.descend k c 0 t = 0 := by
  induction k with
  | zero => intro c t; rfl
  | succ k ih =>
      intro c t
      rw [TwoPart.descend, zero_mul]
      split
      · exact ih _ _
      · exact ih _ _

/-! ### The two-part of the field -/

theorem two_pow_mul_odd : 2 ^ 27 * fieldTwoPart.odd = (fieldModulus - 1) / 2 := by decide

theorem two_mul_half_odd : 2 * ((fieldTwoPart.odd + 1) / 2) = 1 + fieldTwoPart.odd := by
  decide

set_option maxRecDepth 20000 in
theorem generator_pow_half_twos : fieldTwoPart.generator ^ 2 ^ 27 = -1 := by
  rw [← pow_eq]
  decide

/-- Where the loop of `sqrt?` arrives. -/
def candidate (a : Felt) : Felt :=
  TwoPart.descend 27 fieldTwoPart.generator (Arith.pow a ((fieldTwoPart.odd + 1) / 2))
    (Arith.pow a fieldTwoPart.odd)

theorem sqrt?_eq_candidate (a : Felt) :
    fieldTwoPart.sqrt? a = if candidate a * candidate a = a then some (candidate a) else none :=
  rfl

theorem candidate_mul_self {a : Felt} (hsquare : IsSquare a) : candidate a * candidate a = a := by
  rw [candidate, pow_eq, pow_eq]
  -- zero has no order, so it does not start the loop as the others do
  by_cases ha : a = 0
  · have hexp : (fieldTwoPart.odd + 1) / 2 ≠ 0 := by decide
    rw [ha, zero_pow hexp, descend_zero, mul_zero]
  · refine descend_mul_self 27 ?_ ?_ generator_pow_half_twos
    · rw [← pow_two, ← pow_mul, mul_comm _ 2, two_mul_half_odd, pow_add, pow_one]
    · rw [← pow_mul, mul_comm, two_pow_mul_odd, pow_half_eq_one_of_isSquare ha hsquare]

/-- **A square has its root found.** -/
theorem exists_sqrt?_eq_some {a : Felt} (hsquare : IsSquare a) :
    ∃ root, fieldTwoPart.sqrt? a = some root ∧ root * root = a := by
  have hroot := candidate_mul_self hsquare
  refine ⟨candidate a, ?_, hroot⟩
  rw [sqrt?_eq_candidate, if_pos hroot]

end RollupWallet.Felt
