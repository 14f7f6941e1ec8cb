import Mathlib
import RollupWallet.Proofs.Curve.Secp256k1.Prime

/-!
# The points of the curve of layer 1 are a group

The points of `y² = x³ + 7` and a neutral element are a group, by the theory of Weierstrass curves.
The sum of points that runs is the sum of that group (`GroupPoint.toPoint_add`), and so the multiples
that run are those of the group (`GroupPoint.toPoint_mul`).

Two points with one first coordinate are taken for the same or for opposite points by whether their
second coordinates are equal.  That would be wrong where the second coordinate is zero, because then
a point is its own opposite.  But the curve has no such point: minus seven is no cube
(`OnCurve.y_ne_zero`).
-/

namespace RollupWallet.Curve.Secp256k1

open WeierstrassCurve

/-- The curve. -/
def curve : Affine Coordinate := ⟨0, 0, 0, 0, 7⟩

/-- A point of the curve, or the neutral element. -/
abbrev GroupPoint := curve.Point

/-- The equation of the curve. -/
def OnCurve (x y : Coordinate) : Prop := y * y = x * x * x + 7

instance (x y : Coordinate) : Decidable (OnCurve x y) := inferInstanceAs (Decidable (_ = _))

theorem two_ne_zero : (2 : Coordinate) ≠ 0 := by decide

theorem discriminant_ne_zero : curve.Δ ≠ 0 := by decide

theorem nonsingular_iff {x y : Coordinate} : curve.Nonsingular x y ↔ OnCurve x y := by
  rw [← Affine.equation_iff_nonsingular_of_Δ_ne_zero discriminant_ne_zero, Affine.equation_iff,
    OnCurve]
  simp only [curve, zero_mul, add_zero]
  rw [pow_two, pow_three', mul_assoc]

/-! ### No point of order two -/

set_option maxRecDepth 20000 in
theorem pow_third_ne_one : Arith.pow (-7 : Coordinate) ((prime - 1) / 3) ≠ 1 := by decide

theorem OnCurve.y_ne_zero {x y : Coordinate} (h : OnCurve x y) : y ≠ 0 := by
  rintro rfl
  have hcube : x ^ 3 = -7 := by
    unfold OnCurve at h
    linear_combination -h
  have hx : x ≠ 0 := by
    rintro rfl
    exact absurd hcube (by decide)
  -- the power of a cube is a power of `x` with the exponent of Fermat's theorem
  have hexponent : 3 * ((prime - 1) / 3) = prime - 1 := by decide
  apply pow_third_ne_one
  rw [Arith.pow_eq, ← hcube, ← pow_mul, hexponent, Coordinate.pow_prime_sub_one hx]

/-! ### Lines -/

theorem negY_eq (x y : Coordinate) : curve.negY x y = -y := by
  simp [Affine.negY, curve]

theorem OnCurve.ne_negY {x y : Coordinate} (h : OnCurve x y) : y ≠ curve.negY x y := by
  rw [negY_eq, ne_eq, eq_neg_iff_add_eq_zero, ← two_mul]
  exact mul_ne_zero two_ne_zero h.y_ne_zero

/-- The slope of the line through two points. -/
theorem slope_of_ne {x₁ y₁ x₂ y₂ : Coordinate} (hx : x₁ ≠ x₂) :
    curve.slope x₁ x₂ y₁ y₂ = (y₂ - y₁) * Arith.inv (x₂ - x₁) := by
  rw [Affine.slope_of_X_ne hx, ← neg_sub y₂, ← neg_sub x₂, neg_div_neg_eq]
  rfl

/-- The slope of the tangent at a point. -/
theorem slope_self {x y : Coordinate} (h : OnCurve x y) :
    curve.slope x x y y = 3 * x * x * Arith.inv (2 * y) := by
  rw [Affine.slope_of_Y_ne rfl h.ne_negY, negY_eq, sub_neg_eq_add, ← two_mul]
  simp only [curve, zero_mul, mul_zero, add_zero, sub_zero]
  rw [pow_two, ← mul_assoc]
  rfl

/-! ### Sums -/

namespace GroupPoint

/-- The coordinates of a point. -/
def toPoint : GroupPoint → Point
  | .zero => .zero
  | .some x y _ => .affine x y

@[simp] theorem toPoint_zero : toPoint 0 = .zero := rfl

theorem toPoint_some {x y : Coordinate} (h : curve.Nonsingular x y) :
    toPoint (.some x y h) = .affine x y := rfl

theorem toPoint_injective : Function.Injective toPoint := by
  intro p q h
  cases p with
  | zero =>
      cases q with
      | zero => rfl
      | some x y hq => cases h
  | some x y hp =>
      cases q with
      | zero => cases h
      | some x' y' hq =>
          cases h
          rfl

/-- The third point on the line through two points, mirrored, is their sum. -/
theorem toPoint_add_of_slope {x₁ y₁ x₂ y₂ slope : Coordinate} (h₁ : curve.Nonsingular x₁ y₁)
    (h₂ : curve.Nonsingular x₂ y₂) (hne : ¬(x₁ = x₂ ∧ y₁ = curve.negY x₂ y₂))
    (hslope : curve.slope x₁ x₂ y₁ y₂ = slope) :
    toPoint (.some x₁ y₁ h₁ + .some x₂ y₂ h₂) = Point.onLine slope x₁ y₁ x₂ := by
  subst hslope
  rw [Affine.Point.add_some hne, toPoint_some, Point.onLine]
  simp only [Affine.addX, Affine.addY, Affine.negY, Affine.negAddY, curve, zero_mul]
  generalize Affine.slope _ x₁ x₂ y₁ y₂ = slope
  congr 1 <;> ring

/-- **The sum of two points is that of the group.** -/
@[simp] theorem toPoint_add (p q : GroupPoint) : p.toPoint.add q.toPoint = (p + q).toPoint := by
  cases p with
  | zero =>
      show Point.add .zero q.toPoint = toPoint (0 + q)
      rw [zero_add, Point.add]
  | some x₁ y₁ h₁ =>
  cases q with
  | zero =>
      show Point.add (.affine x₁ y₁) .zero = toPoint (.some x₁ y₁ h₁ + 0)
      rw [add_zero, Point.add, toPoint_some]
      exact nofun
  | some x₂ y₂ h₂ =>
      rw [toPoint_some, toPoint_some, Point.add]
      split_ifs with hx hy
      · exact (toPoint_add_of_slope h₁ h₂ (fun h => hx h.1) (slope_of_ne hx)).symm
      · obtain rfl := not_not.mp hx
        subst hy
        have hcurve := nonsingular_iff.mp h₁
        exact (toPoint_add_of_slope h₁ h₂ (fun h => hcurve.ne_negY h.2) (slope_self hcurve)).symm
      · -- with one first coordinate and two second ones, the points are opposite
        obtain rfl := not_not.mp hx
        have hopposite := Affine.Y_eq_of_X_eq h₁.1 h₂.1 rfl
        rw [Affine.Point.add_of_Y_eq rfl (hopposite.resolve_left hy), toPoint_zero]

/-- **The multiple of a point is that of the group.** -/
@[simp] theorem toPoint_mul (p : GroupPoint) (n : ℕ) : p.toPoint.mul n = (n • p).toPoint := by
  refine Arith.power_induct (R := fun q n => q = (n • p).toPoint) ?_ ?_ ?_ n
  · rw [zero_nsmul, toPoint_zero]
  · rw [one_nsmul]
  · rintro a b m n rfl rfl
    rw [toPoint_add, add_nsmul]

/-- Coordinates that satisfy the equation are those of a point. -/
theorem exists_of_onCurve {x y : Coordinate} (h : OnCurve x y) :
    ∃ p : GroupPoint, p.toPoint = .affine x y :=
  ⟨.some x y (nonsingular_iff.mpr h), rfl⟩

/-- A point whose coordinates are given lies on the curve. -/
theorem onCurve_of_affine {p : GroupPoint} {x y : Coordinate} (h : p.toPoint = .affine x y) :
    OnCurve x y := by
  cases p with
  | zero => cases h
  | some x' y' hp =>
      obtain ⟨rfl, rfl⟩ := Point.affine.inj h
      exact nonsingular_iff.mp hp

/-- The opposite point has the opposite second coordinate. -/
theorem toPoint_neg_of_affine {p : GroupPoint} {x y : Coordinate} (h : p.toPoint = .affine x y) :
    (-p).toPoint = .affine x (-y) := by
  cases p with
  | zero => cases h
  | some x' y' hp =>
      obtain ⟨rfl, rfl⟩ := Point.affine.inj h
      rw [Affine.Point.neg_some, toPoint_some, negY_eq]

end GroupPoint

/-! ### Points by their first coordinate -/

/-- Of a coordinate that is not zero and its opposite, one is odd and one is even. -/
theorem odd_neg_iff {y : Coordinate} (hy : y ≠ 0) : (-y).val % 2 = 1 ↔ ¬ y.val % 2 = 1 := by
  have hpos : y.val ≠ 0 := fun h => hy (Fin.ext h)
  have hlt := y.isLt
  have hval : (-y).val = prime - y.val := by
    rw [Fin.val_neg', Nat.mod_eq_of_lt (by omega)]
  have hodd : prime % 2 = 1 := by decide
  omega

/-- The power that is taken for a root of a square is a root of it. -/
theorem root_eq_or_eq_neg (y : Coordinate) :
    Arith.pow (y * y) ((prime + 1) / 4) = y ∨ Arith.pow (y * y) ((prime + 1) / 4) = -y := by
  apply sq_eq_sq_iff_eq_or_eq_neg.mp
  have hexponent : 2 * ((prime + 1) / 4 * 2) = prime - 1 + 2 := by decide
  rw [Arith.pow_eq, ← pow_two, ← pow_mul, ← pow_mul]
  rw [hexponent, pow_add]
  by_cases hy : y = 0
  · rw [hy, zero_pow (by decide : 2 ≠ 0), mul_zero]
  · rw [Coordinate.pow_prime_sub_one hy, one_mul]

/-- **The point with a first coordinate is found.**  Of the two that have it, the one is taken whose
second coordinate is odd or even as asked. -/
theorem Point.ofX?_val {x y : Coordinate} (h : OnCurve x y) (odd : Bool) :
    ofX? x.val odd = some (.affine x (if (y.val % 2 = 1) = odd then y else -y)) := by
  have hsquare : x * x * x + 7 = y * y := h.symm
  rw [ofX?, dif_pos x.isLt]
  simp only [Fin.eta, hsquare]
  rcases root_eq_or_eq_neg y with hroot | hroot
  · rw [hroot, if_pos rfl]
  · -- the other root is found, which is odd where this one is even
    rw [hroot, neg_mul_neg, if_pos rfl, neg_neg]
    simp only [odd_neg_iff h.y_ne_zero]
    by_cases hodd : y.val % 2 = 1 <;> cases odd <;> simp [hodd]

/-- What is found is a point of the curve. -/
theorem Point.exists_of_ofX? {x : ℕ} {odd : Bool} {p : Point} (h : ofX? x odd = some p) :
    ∃ q : GroupPoint, q.toPoint = p := by
  unfold ofX? at h
  split at h
  · next hx =>
    simp only at h
    split at h
    · next hroot =>
      obtain rfl := Option.some.inj h
      split
      · exact GroupPoint.exists_of_onCurve hroot
      · refine GroupPoint.exists_of_onCurve ?_
        rw [OnCurve, neg_mul_neg]
        exact hroot
    · cases h
  · cases h

end RollupWallet.Curve.Secp256k1
