import Mathlib
import RollupWallet.Proofs.Bytes
import RollupWallet.Proofs.Curve.Extended

/-!
# Compressed points

The compressed form keeps `y` and one bit of `x`.  Reading it back meets no obstacle
(`CurvePoint.decompress_compress`): `y` is below the modulus, the denominator of `x²` does not vanish
because `d` is no square, the quotient is a square because the point is on the curve, and of its two
roots the sign bit picks the right one, for `x = 0` as well, where both are the same.
-/

namespace RollupWallet.Curve

open Felt

/-! ### The sign of a coordinate -/

/-- A non-zero element and its negation have different signs. -/
theorem Point.isLargest_neg {x : Felt} (hx : x ≠ 0) :
    Point.isLargest (-x) = !Point.isLargest x := by
  have hpos : 0 < x.val := Nat.pos_of_ne_zero fun h => hx (Fin.ext h)
  have hlt := x.isLt
  have hval : (-x).val = fieldModulus - x.val := by
    show (fieldModulus - x.val) % fieldModulus = _
    exact Nat.mod_eq_of_lt (Nat.sub_lt (by omega) hpos)
  -- the modulus is odd, so exactly one of `x` and `-x` is above the middle
  have hodd : fieldModulus = 2 * ((fieldModulus - 1) / 2) + 1 := by decide
  unfold Point.isLargest
  rw [hval, Bool.eq_iff_iff]
  simp only [decide_eq_true_eq, Bool.not_eq_true', decide_eq_false_iff_not]
  omega

/-- The step that fixes the sign of a root leads from either root of `x²` to `x`. -/
theorem Point.sign_fix {root x : Felt} (h : root * root = x * x) :
    (if Point.isLargest root != Point.isLargest x then -root else root) = x := by
  rcases mul_self_eq_mul_self_iff.mp h with rfl | rfl
  · simp
  · by_cases hx : x = 0
    · simp [hx]
    · simp [Point.isLargest_neg hx]

/-! ### The bits of the compressed form -/

theorem Felt.val_lt_top (y : Felt) : y.val < 2 ^ 255 :=
  Nat.lt_trans y.isLt (by decide)

/-- The compressed form is `y` and the sign of `x` on the top bit. -/
theorem Point.toNatLE_compress (p : Point) :
    Bytes.toNatLE p.compress.bytes =
      2 ^ 255 * (if Point.isLargest p.x then 1 else 0) + p.y.val := by
  have hy := Felt.val_lt_top p.y
  have hvalue : (p.y.val + if Point.isLargest p.x then Nat.pow 2 255 else 0) =
      2 ^ 255 * (if Point.isLargest p.x then 1 else 0) + p.y.val := by
    split
    · rw [mul_one, add_comm]
      rfl
    · rw [mul_zero, add_comm]
  have hlt : 2 ^ 255 * (if Point.isLargest p.x then 1 else 0) + p.y.val < 256 ^ 32 := by
    split <;> omega
  rw [Point.compress, Bytes.toNatLE_ofNatLE, hvalue, Nat.mod_eq_of_lt hlt]

/-- The top bit of the compressed form is the sign. -/
theorem Point.testBit_compress (p : Point) :
    (Bytes.toNatLE p.compress.bytes).testBit 255 = Point.isLargest p.x := by
  rw [Point.toNatLE_compress, Nat.testBit_two_pow_mul_add _ (Felt.val_lt_top p.y),
    if_neg (lt_irrefl 255), Nat.sub_self]
  cases Point.isLargest p.x <;> rfl

/-- The other bits of the compressed form are the second coordinate. -/
theorem Point.compress_mod (p : Point) :
    Bytes.toNatLE p.compress.bytes % Nat.pow 2 255 = p.y.val := by
  have hpow : Nat.pow 2 255 = 2 ^ 255 := rfl
  rw [hpow, Point.toNatLE_compress, Nat.mul_add_mod, Nat.mod_eq_of_lt (Felt.val_lt_top p.y)]

/-! ### The equation for the first coordinate -/

/-- The denominator of `x²` does not vanish. -/
theorem denominator_ne_zero (y : Felt) : -1 - edwardsD * (y * y) ≠ 0 := by
  intro h
  obtain ⟨i, hi⟩ := complete_edwardsD.isSquare_neg_one
  have hminus : (1 : Felt) * 1 = -edwardsD * (y * y) := by
    linear_combination -h
  have hzero := complete_edwardsD.eq_zero_of_mul_self_eq hminus
  -- so `y = 0`, and then the denominator is `-1`
  rw [hzero] at h
  exact absurd h (by decide)

/-- The curve equation solved for the square of the first coordinate. -/
theorem CurvePoint.mul_self_x (p : CurvePoint) :
    (1 - p.y * p.y) * Arith.inv (-1 - edwardsD * (p.y * p.y)) = p.x * p.x := by
  have hcurve : 1 - p.y * p.y = p.x * p.x * (-1 - edwardsD * (p.y * p.y)) := by
    have h := p.onEdwards
    unfold OnEdwards at h
    linear_combination -h
  rw [hcurve, Felt.inv_eq, mul_assoc, mul_inv_cancel₀ (denominator_ne_zero p.y), mul_one]

/-- **The compressed form of a point of the curve is read back as that point.** -/
theorem CurvePoint.decompress_compress (p : CurvePoint) :
    Point.decompress p.toPoint.compress = .ok p.toPoint := by
  obtain ⟨root, hroot, hsquare⟩ := Felt.exists_sqrt?_eq_some ⟨p.x, p.mul_self_x⟩
  rw [p.mul_self_x] at hsquare
  have hfix : (⟨if Point.isLargest root != Point.isLargest p.x then -root else root, p.y⟩ : Point) =
      p.toPoint := by
    rw [Point.sign_fix hsquare]
    rfl
  have hx : p.toPoint.x = p.x := rfl
  have hy : p.toPoint.y = p.y := rfl
  unfold Point.decompress
  simp only [Point.testBit_compress, Point.compress_mod, hx, hy, Felt.ofNat?_val,
    denominator_ne_zero, if_false, hroot, hfix, p.onCurve_toPoint, if_true]
  rfl

end RollupWallet.Curve
