import Mathlib
import RollupWallet.Curve.Edwards
import RollupWallet.Proofs.Curve.Law
import RollupWallet.Proofs.Field.SquareRoot

/-!
# Sums and multiples in extended coordinates

Extended coordinates `(X, Y, Z, T)` represent the point `(X / Z, Y / Z)` if `Z` is not zero and
`T / Z` is the product of its coordinates (`Extended.Represents`).  The sum that is computed without
divisions represents the sum of the group (`Extended.Represents.add`), so reading the bits of a
number gives the multiple of the group (`Extended.Represents.power`), and the operations on points
are those of the group (`CurvePoint.toPoint_add`, `CurvePoint.toPoint_mul`).
-/

namespace RollupWallet.Curve

set_option maxRecDepth 20000 in
/-- The curve of layer-2 keys is complete: minus one has a root, and `d` fails Euler's criterion. -/
theorem complete_edwardsD : Complete edwardsD where
  two_ne_zero := Felt.two_ne_zero
  isSquare_neg_one := ⟨Arith.pow 5 ((fieldModulus - 1) / 4), by decide⟩
  not_isSquare := Felt.not_isSquare_of_pow_half (by decide)

instance : Fact (Complete edwardsD) := ⟨complete_edwardsD⟩

/-- A point of the curve of layer-2 keys. -/
abbrev CurvePoint := EdwardsPoint edwardsD

/-- The coordinates of a point of the curve. -/
def CurvePoint.toPoint (p : CurvePoint) : Point := ⟨p.x, p.y⟩

/-- The check that runs is the equation of the curve. -/
theorem Point.onCurve_iff (p : Point) : p.onCurve = true ↔ OnEdwards edwardsD p.x p.y :=
  decide_eq_true_iff

theorem CurvePoint.onCurve_toPoint (p : CurvePoint) : p.toPoint.onCurve = true :=
  (Point.onCurve_iff _).mpr p.onEdwards

theorem CurvePoint.toPoint_injective : Function.Injective CurvePoint.toPoint := by
  intro p q h
  exact EdwardsPoint.ext (congrArg Point.x h) (congrArg Point.y h)

namespace Extended

/-- Extended coordinates represent a point. -/
structure Represents (e : Extended) (p : CurvePoint) : Prop where
  Z_ne_zero : e.Z ≠ 0
  X_eq : e.X = p.x * e.Z
  Y_eq : e.Y = p.y * e.Z
  T_eq : e.T = p.x * p.y * e.Z

namespace Represents

variable {e f : Extended} {p q : CurvePoint}

theorem zero : Represents Extended.zero 0 where
  Z_ne_zero := one_ne_zero
  X_eq := (zero_mul _).symm
  Y_eq := (one_mul _).symm
  T_eq := by
    rw [EdwardsPoint.zero_x, zero_mul, zero_mul]
    rfl

theorem ofPoint (p : CurvePoint) : Represents (Extended.ofPoint p.toPoint) p where
  Z_ne_zero := one_ne_zero
  X_eq := (mul_one _).symm
  Y_eq := (mul_one _).symm
  T_eq := (mul_one _).symm

/-- What extended coordinates represent is read back from them. -/
theorem toPoint_eq (h : Represents e p) : e.toPoint = p.toPoint := by
  have hx : e.X * e.Z⁻¹ = p.x := by
    rw [h.X_eq, mul_assoc, mul_inv_cancel₀ h.Z_ne_zero, mul_one]
  have hy : e.Y * e.Z⁻¹ = p.y := by
    rw [h.Y_eq, mul_assoc, mul_inv_cancel₀ h.Z_ne_zero, mul_one]
  exact congrArg₂ Point.mk hx hy

/-- The four products from which a sum is put together, as the addition law has them: twice the
product of the denominators `Z` is a common factor. -/
theorem add_factors (he : Represents e p) (hf : Represents f q) :
    (e.Y + e.X) * (f.Y + f.X) - (e.Y - e.X) * (f.Y - f.X) =
        2 * (e.Z * f.Z) * (p.x * q.y + p.y * q.x) ∧
      (e.Y + e.X) * (f.Y + f.X) + (e.Y - e.X) * (f.Y - f.X) =
        2 * (e.Z * f.Z) * (p.y * q.y + p.x * q.x) ∧
      (e.Z + e.Z) * f.Z - e.T * (edwardsD + edwardsD) * f.T =
        2 * (e.Z * f.Z) * (1 - cross edwardsD p.x p.y q.x q.y) ∧
      (e.Z + e.Z) * f.Z + e.T * (edwardsD + edwardsD) * f.T =
        2 * (e.Z * f.Z) * (1 + cross edwardsD p.x p.y q.x q.y) := by
  rw [he.X_eq, he.Y_eq, he.T_eq, hf.X_eq, hf.Y_eq, hf.T_eq, cross]
  refine ⟨?_, ?_, ?_, ?_⟩ <;> ring

/-- **The sum without divisions represents the sum of the group.** -/
theorem add (he : Represents e p) (hf : Represents f q) : Represents (e.add f) (p + q) := by
  have hplus := complete_edwardsD.one_add_cross_ne_zero p.onEdwards q.onEdwards
  have hminus := complete_edwardsD.one_sub_cross_ne_zero p.onEdwards q.onEdwards
  obtain ⟨hE, hH, hF, hG⟩ := he.add_factors hf
  have hu : 2 * (e.Z * f.Z) ≠ 0 :=
    mul_ne_zero Felt.two_ne_zero (mul_ne_zero he.Z_ne_zero hf.Z_ne_zero)
  have hx : (p + q).x * (1 + cross edwardsD p.x p.y q.x q.y) = p.x * q.y + p.y * q.x :=
    div_mul_cancel₀ _ hplus
  have hy : (p + q).y * (1 - cross edwardsD p.x p.y q.x q.y) = p.y * q.y + p.x * q.x :=
    div_mul_cancel₀ _ hminus
  rw [← hx] at hE
  rw [← hy] at hH
  generalize 2 * (e.Z * f.Z) = u at hE hH hF hG hu
  generalize 1 + cross edwardsD p.x p.y q.x q.y = plus at hE hG hplus
  generalize 1 - cross edwardsD p.x p.y q.x q.y = minus at hH hF hminus
  have hsum : e.add f = ⟨u * ((p + q).x * plus) * (u * minus), u * plus * (u * ((p + q).y * minus)),
      u * minus * (u * plus), u * ((p + q).x * plus) * (u * ((p + q).y * minus))⟩ := by
    rw [← hE, ← hH, ← hF, ← hG]
    rfl
  rw [hsum]
  refine ⟨?_, ?_, ?_, ?_⟩
  · exact mul_ne_zero (mul_ne_zero hu hminus) (mul_ne_zero hu hplus)
  · show u * ((p + q).x * plus) * (u * minus) = (p + q).x * (u * minus * (u * plus))
    ring
  · show u * plus * (u * ((p + q).y * minus)) = (p + q).y * (u * minus * (u * plus))
    ring
  · show u * ((p + q).x * plus) * (u * ((p + q).y * minus)) =
      (p + q).x * (p + q).y * (u * minus * (u * plus))
    ring

/-- Multiples by squaring represent the multiples of the group. -/
theorem power (h : Represents e p) (n : ℕ) :
    Represents (Arith.power Extended.add Extended.zero e n) (n • p) := by
  refine Arith.power_induct (R := fun e n => Represents e (n • p)) ?_ ?_ ?_ n
  · rw [zero_nsmul]
    exact zero
  · rw [one_nsmul]
    exact h
  · intro e f m n he hf
    rw [add_nsmul]
    exact he.add hf

end Represents

end Extended

/-! ### Points -/

namespace CurvePoint

@[simp] theorem toPoint_zero : (0 : CurvePoint).toPoint = Point.zero := rfl

/-- The sum of two points is that of the group. -/
@[simp] theorem toPoint_add (p q : CurvePoint) : p.toPoint.add q.toPoint = (p + q).toPoint :=
  ((Extended.Represents.ofPoint p).add (Extended.Represents.ofPoint q)).toPoint_eq

/-- **The multiple of a point is that of the group.** -/
@[simp] theorem toPoint_mul (p : CurvePoint) (n : ℕ) : p.toPoint.mul n = (n • p).toPoint :=
  ((Extended.Represents.ofPoint p).power n).toPoint_eq

/-- The generator as a point of the curve. -/
def generator : CurvePoint :=
  ⟨Point.generator.x, Point.generator.y,
    (Point.onCurve_iff Point.generator).mp (by decide)⟩

@[simp] theorem toPoint_generator : generator.toPoint = Point.generator := rfl

set_option maxRecDepth 20000 in
/-- The generator lies in the subgroup: as many of it as the subgroup has points add up to zero. -/
theorem subgroupOrder_nsmul_generator : subgroupOrder • generator = 0 := by
  apply toPoint_injective
  rw [← toPoint_mul, toPoint_generator, toPoint_zero]
  decide

/-- Multiples of the generator depend on the multiplier modulo the order of the subgroup only. -/
theorem mod_nsmul_generator (n : ℕ) : (n % subgroupOrder) • generator = n • generator := by
  conv_rhs => rw [← Nat.div_add_mod n subgroupOrder]
  rw [add_nsmul, mul_nsmul, subgroupOrder_nsmul_generator, nsmul_zero, zero_add]

end CurvePoint

end RollupWallet.Curve
