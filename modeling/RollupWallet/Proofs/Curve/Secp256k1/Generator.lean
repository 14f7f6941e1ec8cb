import Mathlib
import RollupWallet.Proofs.Curve.Secp256k1.Group

/-!
# Multiples of the generator without divisions

A sum of two points takes an inverse, which is a power with an exponent of 256 bits.  To follow a
multiple of a point through all its sums, as is needed for the order of the generator, one leaves the
inverses to the end: Jacobian coordinates `(X, Y, Z)` stand for the point `(X / Z ^ 2, Y / Z ^ 3)`, or
for the neutral element where `Z` is zero (`Jacobian.Represents`).  Sums without divisions represent
the sums of the group (`Jacobian.Represents.add`), so multiples may be computed in these coordinates
(`GroupPoint.toPoint_mulJacobian`).

In this way the generator has its order (`GroupPoint.addOrderOf_generator`), which makes its
multiples depend on the multiplier as a scalar.
-/

namespace RollupWallet.Curve.Secp256k1

/-- Jacobian coordinates. -/
structure Jacobian where
  X : Coordinate
  Y : Coordinate
  Z : Coordinate

namespace Jacobian

/-- The neutral element. -/
def zero : Jacobian := ⟨1, 1, 0⟩

/-- The coordinates of a point, with one for `Z`. -/
def ofPoint : Point → Jacobian
  | .zero => zero
  | .affine x y => ⟨x, y, 1⟩

/-- The point that is represented. -/
def toPoint (j : Jacobian) : Point :=
  if j.Z = 0 then .zero
  else
    let inverse := Arith.inv j.Z
    .affine (j.X * (inverse * inverse)) (j.Y * (inverse * inverse * inverse))

/-- Twice a point. -/
def double (j : Jacobian) : Jacobian :=
  let square := j.Y * j.Y
  let shift := 4 * j.X * square
  let slope := 3 * j.X * j.X
  let x := slope * slope - 2 * shift
  ⟨x, slope * (shift - x) - 8 * square * square, 2 * j.Y * j.Z⟩

/-- The sum of two points. -/
def add (j k : Jacobian) : Jacobian :=
  if j.Z = 0 then k
  else if k.Z = 0 then j
  else
    let j2 := j.Z * j.Z
    let k2 := k.Z * k.Z
    let u := j.X * k2
    let s := j.Y * (k2 * k.Z)
    let du := k.X * j2 - u
    let ds := k.Y * (j2 * j.Z) - s
    if du = 0 then
      if ds = 0 then double j else zero
    else
      let square := du * du
      let cube := square * du
      let shift := u * square
      let x := ds * ds - cube - 2 * shift
      ⟨x, ds * (shift - x) - s * cube, du * (j.Z * k.Z)⟩

/-- Jacobian coordinates represent a point. -/
inductive Represents (j : Jacobian) : GroupPoint → Prop
  | zero (hZ : j.Z = 0) : Represents j 0
  | some {x y : Coordinate} (h : curve.Nonsingular x y) (hZ : j.Z ≠ 0)
      (hX : j.X = x * (j.Z * j.Z)) (hY : j.Y = y * (j.Z * j.Z * j.Z)) : Represents j (.some x y h)

namespace Represents

variable {j k : Jacobian} {p q : GroupPoint}

theorem ofPoint (p : GroupPoint) : Represents (Jacobian.ofPoint p.toPoint) p := by
  cases p with
  | zero => exact .zero rfl
  | some x y h =>
      refine .some h one_ne_zero ?_ ?_
      · show x = x * (1 * 1)
        rw [mul_one, mul_one]
      · show y = y * (1 * 1 * 1)
        rw [mul_one, mul_one, mul_one]

/-- What Jacobian coordinates represent is read back from them. -/
theorem toPoint_eq (h : Represents j p) : j.toPoint = p.toPoint := by
  cases h with
  | zero hZ => rw [toPoint, if_pos hZ, GroupPoint.toPoint_zero]
  | @some x y h hZ hX hY =>
      have hcancel : j.Z * Arith.inv j.Z = 1 := Arith.mul_inv_cancel prime_prime hZ
      rw [toPoint, if_neg hZ, GroupPoint.toPoint_some, hX, hY]
      generalize Arith.inv j.Z = inverse at hcancel ⊢
      show Point.affine (x * (j.Z * j.Z) * (inverse * inverse))
        (y * (j.Z * j.Z * j.Z) * (inverse * inverse * inverse)) = .affine x y
      congr 1
      · linear_combination (x * (j.Z * inverse + 1)) * hcancel
      · linear_combination (y * (j.Z * inverse * (j.Z * inverse) + j.Z * inverse + 1)) * hcancel

/-- The line of a slope, in Jacobian coordinates. -/
theorem of_slope {x₁ y₁ x₂ y₂ slope : Coordinate} {h₁ : curve.Nonsingular x₁ y₁}
    {h₂ : curve.Nonsingular x₂ y₂} (hne : ¬(x₁ = x₂ ∧ y₁ = curve.negY x₂ y₂))
    (hslope : curve.slope x₁ x₂ y₁ y₂ = slope) (hZ : j.Z ≠ 0)
    (hX : j.X = (slope * slope - x₁ - x₂) * (j.Z * j.Z))
    (hY : j.Y = (slope * (x₁ - (slope * slope - x₁ - x₂)) - y₁) * (j.Z * j.Z * j.Z)) :
    Represents j (.some x₁ y₁ h₁ + .some x₂ y₂ h₂) := by
  have hsum := GroupPoint.toPoint_add_of_slope h₁ h₂ hne hslope
  generalize WeierstrassCurve.Affine.Point.some x₁ y₁ h₁ + .some x₂ y₂ h₂ = sum at hsum
  cases sum with
  | zero => cases hsum
  | some x y h =>
      obtain ⟨rfl, rfl⟩ := Point.affine.inj hsum
      exact .some h hZ hX hY

/-- Twice a point. -/
theorem double (h : Represents j p) : Represents j.double (p + p) := by
  cases h with
  | zero hZ =>
      rw [add_zero]
      refine .zero ?_
      show 2 * j.Y * j.Z = 0
      rw [hZ, mul_zero]
  | @some x y h hZ hX hY =>
      have hcurve := nonsingular_iff.mp h
      have htwo : 2 * y ≠ 0 := mul_ne_zero two_ne_zero hcurve.y_ne_zero
      have hslope := slope_self hcurve
      have htangent : 3 * x * x * Arith.inv (2 * y) * (2 * y) = 3 * x * x := by
        rw [mul_assoc, mul_comm (Arith.inv _), Arith.mul_inv_cancel prime_prime htwo, mul_one]
      generalize 3 * x * x * Arith.inv (2 * y) = slope at hslope htangent
      have hnumerator : 3 * (x * (j.Z * j.Z)) * (x * (j.Z * j.Z)) = slope * (2 * y) * j.Z ^ 4 := by
        rw [htangent]
        ring
      refine of_slope (fun h => hcurve.ne_negY h.2) hslope ?_ ?_ ?_
      · show 2 * j.Y * j.Z ≠ 0
        rw [hY, ← mul_assoc]
        exact mul_ne_zero (mul_ne_zero htwo (mul_ne_zero (mul_ne_zero hZ hZ) hZ)) hZ
      · simp only [Jacobian.double]
        rw [hX, hY, hnumerator]
        ring
      · simp only [Jacobian.double]
        rw [hX, hY, hnumerator]
        ring

/-- **The sum without divisions represents the sum of the group.** -/
theorem add (hj : Represents j p) (hk : Represents k q) : Represents (j.add k) (p + q) := by
  cases hj with
  | zero hZ =>
      rw [Jacobian.add, if_pos hZ, zero_add]
      exact hk
  | @some x₁ y₁ h₁ hZ₁ hX₁ hY₁ =>
  cases hk with
  | zero hZ =>
      rw [Jacobian.add, if_neg hZ₁, if_pos hZ, add_zero]
      exact .some h₁ hZ₁ hX₁ hY₁
  | @some x₂ y₂ h₂ hZ₂ hX₂ hY₂ =>
      have hw : j.Z * k.Z ≠ 0 := mul_ne_zero hZ₁ hZ₂
      have hdu : k.X * (j.Z * j.Z) - j.X * (k.Z * k.Z) = (x₂ - x₁) * (j.Z * k.Z) ^ 2 := by
        rw [hX₁, hX₂]
        ring
      have hds : k.Y * (j.Z * j.Z * j.Z) - j.Y * (k.Z * k.Z * k.Z) =
          (y₂ - y₁) * (j.Z * k.Z) ^ 3 := by
        rw [hY₁, hY₂]
        ring
      rw [Jacobian.add, if_neg hZ₁, if_neg hZ₂]
      simp only [hdu, hds, mul_eq_zero, pow_eq_zero_iff, hw, or_false, sub_eq_zero, ne_eq,
        OfNat.ofNat_ne_zero, not_false_eq_true]
      split_ifs with hx hy
      · subst hx hy
        exact double (.some h₁ hZ₁ hX₁ hY₁)
      · -- opposite points
        subst hx
        have hopposite := (WeierstrassCurve.Affine.Y_eq_of_X_eq h₁.1 h₂.1 rfl).resolve_left
          (Ne.symm hy)
        rw [WeierstrassCurve.Affine.Point.add_of_Y_eq rfl hopposite]
        exact .zero rfl
      · have hne : x₁ ≠ x₂ := Ne.symm hx
        have hslope : curve.slope x₁ x₂ y₁ y₂ = _ := slope_of_ne hne
        have hline : (y₂ - y₁) * Arith.inv (x₂ - x₁) * (x₂ - x₁) = y₂ - y₁ := by
          rw [mul_assoc, mul_comm (Arith.inv _),
            Arith.mul_inv_cancel prime_prime (sub_ne_zero.mpr hx), mul_one]
        generalize (y₂ - y₁) * Arith.inv (x₂ - x₁) = slope at hslope hline
        refine of_slope (fun h => hne h.1) hslope ?_ ?_ ?_
        · exact mul_ne_zero (mul_ne_zero (sub_ne_zero.mpr hx) (pow_ne_zero 2 hw)) hw
        · simp only
          rw [← hline, hX₁]
          ring
        · simp only
          rw [← hline, hX₁, hY₁]
          ring

/-- Multiples by squaring represent the multiples of the group. -/
theorem power (h : Represents j p) (n : ℕ) :
    Represents (Arith.power Jacobian.add Jacobian.zero j n) (n • p) := by
  refine Arith.power_induct (R := fun k n => Represents k (n • p)) ?_ ?_ ?_ n
  · rw [zero_nsmul]
    exact .zero rfl
  · rw [one_nsmul]
    exact h
  · intro a b m n ha hb
    rw [add_nsmul]
    exact ha.add hb

end Represents

end Jacobian

/-! ### Multiples -/

/-- The multiple of a point, with divisions at the end only. -/
def Point.mulJacobian (n : ℕ) (p : Point) : Point :=
  (Arith.power Jacobian.add Jacobian.zero (Jacobian.ofPoint p) n).toPoint

namespace GroupPoint

theorem toPoint_mulJacobian (p : GroupPoint) (n : ℕ) :
    p.toPoint.mulJacobian n = (n • p).toPoint :=
  ((Jacobian.Represents.ofPoint p).power n).toPoint_eq

/-- The generator as a point of the group. -/
def generator : GroupPoint := .some _ _ (nonsingular_iff.mpr (show OnCurve
  0x79be667ef9dcbbac55a06295ce870b07029bfcdb2dce28d959f2815b16f81798
  0x483ada7726a3c4655da4fbfc0e1108a8fd17b448a68554199c47d08ffb10d4b8 by decide))

@[simp] theorem toPoint_generator : generator.toPoint = Point.generator := rfl

set_option maxRecDepth 20000 in
/-- As many of the generator as the group has points add up to zero. -/
theorem order_nsmul_generator : order • generator = 0 := by
  apply toPoint_injective
  rw [← toPoint_mulJacobian, toPoint_generator, toPoint_zero]
  decide

/-- The order of the generator. -/
theorem addOrderOf_generator : addOrderOf generator = order :=
  addOrderOf_eq_prime order_nsmul_generator nofun

/-- Multiples of the generator depend on the multiplier modulo the order only. -/
theorem nsmul_generator_eq_iff {m n : ℕ} :
    m • generator = n • generator ↔ m ≡ n [MOD order] := by
  rw [nsmul_eq_nsmul_iff_modEq, addOrderOf_generator]

/-! ### Scalars -/

/-- The multiple of the generator by a scalar. -/
def multiple (s : Scalar) : GroupPoint := s.val • generator

theorem mul_generator_eq_multiple (s : Scalar) :
    Point.generator.mul s.val = (multiple s).toPoint := by
  rw [← toPoint_generator, toPoint_mul, multiple]

theorem multiple_injective : Function.Injective multiple := by
  intro a b h
  exact Fin.ext ((nsmul_generator_eq_iff.mp h).eq_of_lt_of_lt a.isLt b.isLt)

@[simp] theorem multiple_zero : multiple 0 = 0 := zero_nsmul _

theorem multiple_add (a b : Scalar) : multiple (a + b) = multiple a + multiple b := by
  rw [multiple, multiple, multiple, ← add_nsmul, nsmul_generator_eq_iff, Fin.val_add]
  exact Nat.mod_modEq _ _

/-- A multiple of a multiple is that by the product. -/
theorem nsmul_multiple (a b : Scalar) : a.val • multiple b = multiple (a * b) := by
  rw [multiple, multiple, ← mul_nsmul', nsmul_generator_eq_iff, Fin.val_mul]
  exact (Nat.mod_modEq _ _).symm

theorem multiple_neg (a : Scalar) : multiple (-a) = -multiple a := by
  rw [eq_neg_iff_add_eq_zero, ← multiple_add, neg_add_cancel, multiple_zero]

theorem multiple_eq_zero_iff {a : Scalar} : multiple a = 0 ↔ a = 0 := by
  rw [← multiple_zero, multiple_injective.eq_iff]

end GroupPoint

end RollupWallet.Curve.Secp256k1
