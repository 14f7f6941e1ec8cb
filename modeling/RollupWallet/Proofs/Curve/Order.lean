import Mathlib
import RollupWallet.Proofs.Curve.Compression
import RollupWallet.Proofs.Curve.Prime

/-!
# The points of the curve

The curve has eight points for each point of the subgroup (`CurvePoint.card_eq`).  The bounds from
both sides are elementary.

* A point is determined by `y` and the sign of `x`, which is what its compressed form keeps, so there
  are at most two points for each element of the field (`CurvePoint.card_le`).
* The generator has prime order and there is a point of order eight, so the number of points is a
  multiple of `cofactor * subgroupOrder` (`CurvePoint.dvd_card`).
* Twice that multiple is more than the first bound allows.

So clearing the cofactor leads into the subgroup, and a point that it does not lead to zero has
different multiples for different scalars (`CurvePoint.eq_of_clear_nsmul_eq`).
-/

namespace RollupWallet.Curve

instance : Fact subgroupOrder.Prime := ⟨prime_subgroupOrder⟩

namespace CurvePoint

/-! ### A bound from above -/

/-- A point of the curve is determined by its second coordinate and the sign of its first. -/
theorem eq_of_y_eq_of_sign_eq {p q : CurvePoint} (hy : p.y = q.y)
    (hsign : Point.isLargest p.x = Point.isLargest q.x) : p = q := by
  have hsquare : p.x * p.x = q.x * q.x := by
    rw [← p.mul_self_x, ← q.mul_self_x, hy]
  have hx := Point.sign_fix hsquare
  rw [hsign, bne_self_eq_false, if_neg Bool.false_ne_true] at hx
  exact EdwardsPoint.ext hx hy

theorem injective_y_sign :
    Function.Injective fun p : CurvePoint => (p.y, Point.isLargest p.x) := by
  intro p q h
  obtain ⟨hy, hsign⟩ := Prod.mk.inj h
  exact eq_of_y_eq_of_sign_eq hy hsign

instance : Finite CurvePoint := Finite.of_injective _ injective_y_sign

theorem card_le : Nat.card CurvePoint ≤ fieldModulus * 2 := by
  have hle := Nat.card_le_card_of_injective _ injective_y_sign
  rw [Nat.card_prod, Nat.card_eq_fintype_card (α := Bool), Nat.card_fin, Fintype.card_bool] at hle
  exact hle

/-! ### A bound from below -/

/-- A point of order eight. -/
def torsion : CurvePoint :=
  ⟨438929327410846936349781937479275998929723622237267896546408861753155634789,
    4826523245007015323400664741523384119579596407052839571721035538011798951543,
    (Point.onCurve_iff ⟨_, _⟩).mp (by decide)⟩

set_option maxRecDepth 20000 in
theorem addOrderOf_torsion : addOrderOf torsion = cofactor := by
  have hfour : ¬ 2 ^ 2 • torsion = 0 := by
    intro h
    have hpoint := congrArg toPoint h
    rw [← toPoint_mul] at hpoint
    exact absurd hpoint (by decide)
  have height : 2 ^ (2 + 1) • torsion = 0 := by
    apply toPoint_injective
    rw [← toPoint_mul]
    decide
  exact addOrderOf_eq_prime_pow hfour height

/-- The point of order two. -/
def halfTurn : CurvePoint := ⟨0, -1, (Point.onCurve_iff ⟨0, -1⟩).mp (by decide)⟩

theorem toPoint_halfTurn : halfTurn.toPoint = ⟨0, -1⟩ := rfl

theorem cofactor_nsmul_halfTurn : cofactor • halfTurn = 0 := by
  apply toPoint_injective
  rw [← toPoint_mul]
  decide +kernel

theorem generator_ne_zero : generator ≠ 0 := by
  intro h
  exact absurd (congrArg toPoint h) (by decide)

/-- The order of the generator is that of the subgroup. -/
theorem addOrderOf_generator : addOrderOf generator = subgroupOrder :=
  addOrderOf_eq_prime subgroupOrder_nsmul_generator generator_ne_zero

theorem dvd_card : cofactor * subgroupOrder ∣ Nat.card CurvePoint := by
  have hcoprime : cofactor.Coprime subgroupOrder := by decide
  refine hcoprime.mul_dvd_of_dvd_of_dvd ?_ ?_
  · exact addOrderOf_torsion ▸ addOrderOf_dvd_natCard torsion
  · exact addOrderOf_generator ▸ addOrderOf_dvd_natCard generator

/-- **The number of points of the curve.** -/
theorem card_eq : Nat.card CurvePoint = cofactor * subgroupOrder := by
  have hbound : fieldModulus * 2 < 2 * (cofactor * subgroupOrder) := by decide
  exact Nat.eq_of_dvd_of_lt_two_mul Nat.card_pos.ne' dvd_card (card_le.trans_lt hbound)

/-! ### Clearing the cofactor -/

theorem toPoint_clearCofactor (p : CurvePoint) :
    p.toPoint.clearCofactor = (cofactor • p).toPoint :=
  p.toPoint_mul cofactor

theorem clearCofactor_eq_zero_iff {p : CurvePoint} :
    p.toPoint.clearCofactor = Point.zero ↔ cofactor • p = 0 := by
  rw [toPoint_clearCofactor, ← toPoint_zero, toPoint_injective.eq_iff]

/-- Clearing the cofactor leads into the subgroup. -/
theorem subgroupOrder_nsmul_cofactor_nsmul (p : CurvePoint) :
    subgroupOrder • cofactor • p = 0 := by
  rw [← mul_nsmul, ← card_eq]
  exact card_nsmul_eq_zero'

theorem inSubgroup_clearCofactor (p : CurvePoint) : p.toPoint.clearCofactor.inSubgroup = true := by
  rw [toPoint_clearCofactor, Point.inSubgroup, toPoint_mul, subgroupOrder_nsmul_cofactor_nsmul,
    toPoint_zero]
  exact decide_eq_true rfl

/-- What is left of a point when the cofactor is cleared has the order of the subgroup, unless it is
zero. -/
theorem addOrderOf_cofactor_nsmul {p : CurvePoint} (hp : cofactor • p ≠ 0) :
    addOrderOf (cofactor • p) = subgroupOrder :=
  addOrderOf_eq_prime (subgroupOrder_nsmul_cofactor_nsmul p) hp

/-- **Multiples by different scalars differ**, also when the cofactor is cleared, unless clearing it
leaves nothing of the point. -/
theorem eq_of_clear_nsmul_eq {p : CurvePoint} (hp : cofactor • p ≠ 0) {m n : ℕ}
    (hm : m < subgroupOrder) (hn : n < subgroupOrder)
    (h : cofactor • m • p = cofactor • n • p) : m = n := by
  rw [smul_comm, smul_comm cofactor n] at h
  have hmod := nsmul_eq_nsmul_iff_modEq.mp h
  rw [addOrderOf_cofactor_nsmul hp] at hmod
  exact hmod.eq_of_lt_of_lt hm hn

theorem cofactor_nsmul_generator_ne_zero : cofactor • generator ≠ 0 := by
  intro h
  have hdvd := addOrderOf_dvd_of_nsmul_eq_zero h
  rw [addOrderOf_generator] at hdvd
  exact absurd (Nat.le_of_dvd (by decide) hdvd) (by decide)

end CurvePoint

end RollupWallet.Curve
