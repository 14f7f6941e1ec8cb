import Mathlib

/-!
# The group of a complete Edwards curve

The curve `y² - x² = 1 + d x² y²` over a field in which minus one is a square and `d` is none.  Its
addition law

```text
x₃ = (x₁ y₂ + y₁ x₂) / (1 + d x₁ x₂ y₁ y₂)
y₃ = (y₁ y₂ + x₁ x₂) / (1 - d x₁ x₂ y₁ y₂)
```

has no exceptional points: the denominators never vanish (`one_add_cross_ne_zero`,
`one_sub_cross_ne_zero`).  The points therefore form a commutative group with one formula for all
cases (`EdwardsPoint.instAddCommGroup`).  Associativity is the only law that is not read off the
formulas; with the denominators cleared it is an identity of polynomials modulo the three curve
equations (`assoc_num_x`, `assoc_num_y`).
-/

namespace RollupWallet.Curve

variable {K : Type*} [Field K] {d : K}

/-- The parameter of a curve whose addition law has no exceptional points. -/
structure Complete (d : K) : Prop where
  two_ne_zero : (2 : K) ≠ 0
  isSquare_neg_one : IsSquare (-1 : K)
  not_isSquare : ¬ IsSquare d

/-- The equation of the curve. -/
def OnEdwards (d x y : K) : Prop := y * y - x * x = 1 + d * (x * x * (y * y))

/-- The term by which the denominators of the addition law differ from one. -/
def cross (d x₁ y₁ x₂ y₂ : K) : K := d * (x₁ * x₂ * (y₁ * y₂))

/-! ### The denominators -/

section Denominators

variable {x₁ y₁ x₂ y₂ : K}

/-- Minus `d` is no square either, so a square that is minus `d` times a square is zero. -/
theorem Complete.eq_zero_of_mul_self_eq (hd : Complete d) {a b : K}
    (h : a * a = -d * (b * b)) : b = 0 := by
  by_contra hb
  obtain ⟨i, hi⟩ := hd.isSquare_neg_one
  refine hd.not_isSquare ⟨i * a * b⁻¹, ?_⟩
  field_simp
  linear_combination (-b ^ 2 * d) * hi - i ^ 2 * h

/-- **The denominators never vanish**: the cross term of two points is not `1` or `-1`. -/
theorem Complete.cross_mul_self_ne_one (hd : Complete d) (h₁ : OnEdwards d x₁ y₁)
    (h₂ : OnEdwards d x₂ y₂) : cross d x₁ y₁ x₂ y₂ * cross d x₁ y₁ x₂ y₂ ≠ 1 := by
  intro hone
  obtain ⟨i, hi⟩ := hd.isSquare_neg_one
  unfold OnEdwards at h₁ h₂
  unfold cross at hone
  -- with `u = i x` the curve is `u² + y² = 1 - d u² y²`, which is symmetric in `u` and `y`
  have hplus : i * x₁ * y₁ * (i * x₂ + y₂) = 0 := by
    refine hd.eq_zero_of_mul_self_eq (a := i * x₁ + d * (x₁ * x₂ * (y₁ * y₂)) * y₁) ?_
    linear_combination h₁ - d * x₁ ^ 2 * y₁ ^ 2 * h₂ + (y₁ ^ 2 - 1) * hone -
      (x₁ ^ 2 + d * x₁ ^ 2 * y₁ ^ 2 * (x₂ ^ 2 * (i ^ 2 - 1) + y₂ ^ 2 + 2 * i * x₂ * y₂)) * hi
  have hminus : i * x₁ * y₁ * (i * x₂ - y₂) = 0 := by
    refine hd.eq_zero_of_mul_self_eq (a := i * x₁ - d * (x₁ * x₂ * (y₁ * y₂)) * y₁) ?_
    linear_combination h₁ - d * x₁ ^ 2 * y₁ ^ 2 * h₂ + (y₁ ^ 2 - 1) * hone -
      (x₁ ^ 2 + d * x₁ ^ 2 * y₁ ^ 2 * (x₂ ^ 2 * (i ^ 2 - 1) + y₂ ^ 2 - 2 * i * x₂ * y₂)) * hi
  have hdouble : 2 * (x₁ * y₁ * y₂) = 0 := by
    linear_combination (-i) * (hplus - hminus) - 2 * x₁ * y₁ * y₂ * hi
  have hzero : x₁ * y₁ * y₂ = 0 := (mul_eq_zero.mp hdouble).resolve_left hd.two_ne_zero
  have hcontra : (0 : K) = 1 := by
    linear_combination hone - d ^ 2 * x₂ ^ 2 * (x₁ * y₁ * y₂) * hzero
  exact zero_ne_one hcontra

theorem Complete.one_add_cross_ne_zero (hd : Complete d) (h₁ : OnEdwards d x₁ y₁)
    (h₂ : OnEdwards d x₂ y₂) : 1 + cross d x₁ y₁ x₂ y₂ ≠ 0 := by
  intro h
  apply hd.cross_mul_self_ne_one h₁ h₂
  linear_combination (cross d x₁ y₁ x₂ y₂ - 1) * h

theorem Complete.one_sub_cross_ne_zero (hd : Complete d) (h₁ : OnEdwards d x₁ y₁)
    (h₂ : OnEdwards d x₂ y₂) : 1 - cross d x₁ y₁ x₂ y₂ ≠ 0 := by
  intro h
  apply hd.cross_mul_self_ne_one h₁ h₂
  linear_combination (-cross d x₁ y₁ x₂ y₂ - 1) * h

end Denominators

/-! ### The sum of two points -/

/-- The first coordinate of a sum. -/
def sumX (d x₁ y₁ x₂ y₂ : K) : K := (x₁ * y₂ + y₁ * x₂) / (1 + cross d x₁ y₁ x₂ y₂)

/-- The second coordinate of a sum. -/
def sumY (d x₁ y₁ x₂ y₂ : K) : K := (y₁ * y₂ + x₁ * x₂) / (1 - cross d x₁ y₁ x₂ y₂)

section Sums

variable {x₁ y₁ x₂ y₂ x₃ y₃ : K}

/-- A sum of points of the curve is on the curve. -/
theorem Complete.onEdwards_sum (hd : Complete d) (h₁ : OnEdwards d x₁ y₁)
    (h₂ : OnEdwards d x₂ y₂) : OnEdwards d (sumX d x₁ y₁ x₂ y₂) (sumY d x₁ y₁ x₂ y₂) := by
  have hplus := hd.one_add_cross_ne_zero h₁ h₂
  have hminus := hd.one_sub_cross_ne_zero h₁ h₂
  unfold OnEdwards at h₁ h₂
  unfold OnEdwards sumX sumY
  field_simp
  unfold cross
  linear_combination
    ((1 + (d * (x₁ * x₂ * (y₁ * y₂))) ^ 2) * (y₂ ^ 2 - x₂ ^ 2) -
        d * x₂ ^ 2 * y₂ ^ 2 * (y₁ ^ 2 - x₁ ^ 2 + 1 + d * x₁ ^ 2 * y₁ ^ 2)) * h₁ +
      ((1 + (d * (x₁ * x₂ * (y₁ * y₂))) ^ 2) * (1 + d * x₁ ^ 2 * y₁ ^ 2) -
        d * x₁ ^ 2 * y₁ ^ 2 * (y₂ ^ 2 - x₂ ^ 2 + 1 + d * x₂ ^ 2 * y₂ ^ 2)) * h₂

/-- Associativity of the first coordinate, with the denominators cleared. -/
theorem assoc_num_x (h₁ : OnEdwards d x₁ y₁) (h₂ : OnEdwards d x₂ y₂) (h₃ : OnEdwards d x₃ y₃) :
    ((x₁ * y₂ + y₁ * x₂) * (1 - cross d x₁ y₁ x₂ y₂) * y₃ +
        (y₁ * y₂ + x₁ * x₂) * (1 + cross d x₁ y₁ x₂ y₂) * x₃) *
      ((1 + cross d x₂ y₂ x₃ y₃) * (1 - cross d x₂ y₂ x₃ y₃) +
        d * x₁ * y₁ * (x₂ * y₃ + y₂ * x₃) * (y₂ * y₃ + x₂ * x₃)) =
    (x₁ * (y₂ * y₃ + x₂ * x₃) * (1 + cross d x₂ y₂ x₃ y₃) +
        y₁ * (x₂ * y₃ + y₂ * x₃) * (1 - cross d x₂ y₂ x₃ y₃)) *
      ((1 + cross d x₁ y₁ x₂ y₂) * (1 - cross d x₁ y₁ x₂ y₂) +
        d * (x₁ * y₂ + y₁ * x₂) * (y₁ * y₂ + x₁ * x₂) * x₃ * y₃) := by
  unfold OnEdwards at h₁ h₂ h₃
  unfold cross
  -- both sides agree modulo the three equations, and these are the quotients
  linear_combination
    (-d * x₂ * y₂ *
      (x₁ * (x₂ * x₃ + y₂ * y₃) * (d * x₂ ^ 2 * y₂ ^ 2 * x₃ * y₃ +
          x₂ * y₂ * (x₃ ^ 2 - y₃ ^ 2 + 1) + x₃ * y₃ * (x₂ ^ 2 - y₂ ^ 2)) -
        y₁ * (x₂ * y₃ + y₂ * x₃) * (d * x₂ ^ 2 * y₂ ^ 2 * x₃ * y₃ -
          x₂ * y₂ * (x₃ ^ 2 - y₃ ^ 2 + 1) + x₃ * y₃ * (x₂ ^ 2 - y₂ ^ 2)))) * h₁ +
      (d ^ 2 * x₁ * y₁ * x₂ * y₂ * x₃ ^ 2 * y₃ ^ 2 *
          ((x₁ * x₂ + y₁ * y₂) * x₃ - (x₁ * y₂ + y₁ * x₂) * y₃) +
        d * (x₁ ^ 2 - y₁ ^ 2 + 1) * x₃ * y₃ *
          (x₁ * (x₂ * y₂ + x₃ * y₃) * (x₂ * x₃ + y₂ * y₃) +
            y₁ * (x₃ * y₃ - x₂ * y₂) * (x₂ * y₃ + y₂ * x₃)) +
        (x₁ ^ 2 - y₁ ^ 2 + 1) * (x₃ ^ 2 - y₃ ^ 2 + 1) *
          (x₁ * (x₂ * x₃ + y₂ * y₃) + y₁ * (x₂ * y₃ + y₂ * x₃))) * h₂ +
      (-d * x₁ * y₁ * x₂ * y₂ * ((x₁ * x₂ + y₁ * y₂) * x₃ - (x₁ * y₂ + y₁ * x₂) * y₃) -
        (x₁ ^ 2 - y₁ ^ 2 + 1) * (x₂ ^ 2 - y₂ ^ 2 + 1) *
          (x₁ * (x₂ * x₃ + y₂ * y₃) + y₁ * (x₂ * y₃ + y₂ * x₃))) * h₃

/-- Associativity of the second coordinate, with the denominators cleared. -/
theorem assoc_num_y (h₁ : OnEdwards d x₁ y₁) (h₂ : OnEdwards d x₂ y₂) (h₃ : OnEdwards d x₃ y₃) :
    ((y₁ * y₂ + x₁ * x₂) * (1 + cross d x₁ y₁ x₂ y₂) * y₃ +
        (x₁ * y₂ + y₁ * x₂) * (1 - cross d x₁ y₁ x₂ y₂) * x₃) *
      ((1 + cross d x₂ y₂ x₃ y₃) * (1 - cross d x₂ y₂ x₃ y₃) -
        d * x₁ * y₁ * (x₂ * y₃ + y₂ * x₃) * (y₂ * y₃ + x₂ * x₃)) =
    (y₁ * (y₂ * y₃ + x₂ * x₃) * (1 + cross d x₂ y₂ x₃ y₃) +
        x₁ * (x₂ * y₃ + y₂ * x₃) * (1 - cross d x₂ y₂ x₃ y₃)) *
      ((1 + cross d x₁ y₁ x₂ y₂) * (1 - cross d x₁ y₁ x₂ y₂) -
        d * (x₁ * y₂ + y₁ * x₂) * (y₁ * y₂ + x₁ * x₂) * x₃ * y₃) := by
  unfold OnEdwards at h₁ h₂ h₃
  unfold cross
  linear_combination
    (d * x₂ * y₂ *
      (x₁ * (x₂ * y₃ + y₂ * x₃) * (d * x₂ ^ 2 * y₂ ^ 2 * x₃ * y₃ -
          x₂ * y₂ * (x₃ ^ 2 - y₃ ^ 2 + 1) + x₃ * y₃ * (x₂ ^ 2 - y₂ ^ 2)) -
        y₁ * (x₂ * x₃ + y₂ * y₃) * (d * x₂ ^ 2 * y₂ ^ 2 * x₃ * y₃ +
          x₂ * y₂ * (x₃ ^ 2 - y₃ ^ 2 + 1) + x₃ * y₃ * (x₂ ^ 2 - y₂ ^ 2)))) * h₁ +
      (d ^ 2 * x₁ * y₁ * x₂ * y₂ * x₃ ^ 2 * y₃ ^ 2 *
          ((x₁ * x₂ + y₁ * y₂) * y₃ - (x₁ * y₂ + y₁ * x₂) * x₃) +
        d * (x₁ ^ 2 - y₁ ^ 2 + 1) * x₃ * y₃ *
          (x₁ * (x₃ * y₃ - x₂ * y₂) * (x₂ * y₃ + y₂ * x₃) +
            y₁ * (x₂ * y₂ + x₃ * y₃) * (x₂ * x₃ + y₂ * y₃)) +
        (x₁ ^ 2 - y₁ ^ 2 + 1) * (x₃ ^ 2 - y₃ ^ 2 + 1) *
          (x₁ * (x₂ * y₃ + y₂ * x₃) + y₁ * (x₂ * x₃ + y₂ * y₃))) * h₂ +
      (-d * x₁ * y₁ * x₂ * y₂ * ((x₁ * x₂ + y₁ * y₂) * y₃ - (x₁ * y₂ + y₁ * x₂) * x₃) -
        (x₁ ^ 2 - y₁ ^ 2 + 1) * (x₂ ^ 2 - y₂ ^ 2 + 1) *
          (x₁ * (x₂ * y₃ + y₂ * x₃) + y₁ * (x₂ * x₃ + y₂ * y₃))) * h₃

/-- The sum is associative in its first coordinate. -/
theorem Complete.sumX_assoc (hd : Complete d) (h₁ : OnEdwards d x₁ y₁) (h₂ : OnEdwards d x₂ y₂)
    (h₃ : OnEdwards d x₃ y₃) :
    sumX d (sumX d x₁ y₁ x₂ y₂) (sumY d x₁ y₁ x₂ y₂) x₃ y₃ =
      sumX d x₁ y₁ (sumX d x₂ y₂ x₃ y₃) (sumY d x₂ y₂ x₃ y₃) := by
  have hleft := hd.one_add_cross_ne_zero (hd.onEdwards_sum h₁ h₂) h₃
  have hright := hd.one_add_cross_ne_zero h₁ (hd.onEdwards_sum h₂ h₃)
  have hplus := hd.one_add_cross_ne_zero h₁ h₂
  have hminus := hd.one_sub_cross_ne_zero h₁ h₂
  have hplus' := hd.one_add_cross_ne_zero h₂ h₃
  have hminus' := hd.one_sub_cross_ne_zero h₂ h₃
  refine (div_eq_div_iff hleft hright).mpr ?_
  have hnum := assoc_num_x h₁ h₂ h₃
  clear hleft hright
  unfold sumX sumY
  -- the inner denominators stay opaque, so that clearing them leaves the identity in their names
  generalize 1 + cross d x₁ y₁ x₂ y₂ = plus at *
  generalize 1 - cross d x₁ y₁ x₂ y₂ = minus at *
  generalize 1 + cross d x₂ y₂ x₃ y₃ = plus' at *
  generalize 1 - cross d x₂ y₂ x₃ y₃ = minus' at *
  unfold cross
  field_simp
  linear_combination hnum

/-- The sum is associative in its second coordinate. -/
theorem Complete.sumY_assoc (hd : Complete d) (h₁ : OnEdwards d x₁ y₁) (h₂ : OnEdwards d x₂ y₂)
    (h₃ : OnEdwards d x₃ y₃) :
    sumY d (sumX d x₁ y₁ x₂ y₂) (sumY d x₁ y₁ x₂ y₂) x₃ y₃ =
      sumY d x₁ y₁ (sumX d x₂ y₂ x₃ y₃) (sumY d x₂ y₂ x₃ y₃) := by
  have hleft := hd.one_sub_cross_ne_zero (hd.onEdwards_sum h₁ h₂) h₃
  have hright := hd.one_sub_cross_ne_zero h₁ (hd.onEdwards_sum h₂ h₃)
  have hplus := hd.one_add_cross_ne_zero h₁ h₂
  have hminus := hd.one_sub_cross_ne_zero h₁ h₂
  have hplus' := hd.one_add_cross_ne_zero h₂ h₃
  have hminus' := hd.one_sub_cross_ne_zero h₂ h₃
  refine (div_eq_div_iff hleft hright).mpr ?_
  have hnum := assoc_num_y h₁ h₂ h₃
  clear hleft hright
  unfold sumX sumY
  generalize 1 + cross d x₁ y₁ x₂ y₂ = plus at *
  generalize 1 - cross d x₁ y₁ x₂ y₂ = minus at *
  generalize 1 + cross d x₂ y₂ x₃ y₃ = plus' at *
  generalize 1 - cross d x₂ y₂ x₃ y₃ = minus' at *
  unfold cross
  field_simp
  linear_combination hnum

end Sums

/-! ### The group -/

/-- A point of the curve. -/
@[ext] structure EdwardsPoint (d : K) where
  x : K
  y : K
  onEdwards : OnEdwards d x y

namespace EdwardsPoint

variable [hd : Fact (Complete d)]

instance : Zero (EdwardsPoint d) := ⟨⟨0, 1, by simp [OnEdwards]⟩⟩

instance : Neg (EdwardsPoint d) :=
  ⟨fun p => ⟨-p.x, p.y, by
    have h := p.onEdwards
    unfold OnEdwards at h ⊢
    linear_combination h⟩⟩

instance : Add (EdwardsPoint d) :=
  ⟨fun p q => ⟨sumX d p.x p.y q.x q.y, sumY d p.x p.y q.x q.y,
    hd.out.onEdwards_sum p.onEdwards q.onEdwards⟩⟩

omit hd in
@[simp] theorem zero_x : (0 : EdwardsPoint d).x = 0 := rfl

omit hd in
@[simp] theorem zero_y : (0 : EdwardsPoint d).y = 1 := rfl

omit hd in
@[simp] theorem neg_x (p : EdwardsPoint d) : (-p).x = -p.x := rfl

omit hd in
@[simp] theorem neg_y (p : EdwardsPoint d) : (-p).y = p.y := rfl

@[simp] theorem add_x (p q : EdwardsPoint d) : (p + q).x = sumX d p.x p.y q.x q.y := rfl

@[simp] theorem add_y (p q : EdwardsPoint d) : (p + q).y = sumY d p.x p.y q.x q.y := rfl

/-- A point and its mirror image cancel. -/
theorem neg_add (p : EdwardsPoint d) : -p + p = 0 := by
  have hminus := hd.out.one_sub_cross_ne_zero (-p).onEdwards p.onEdwards
  have h := p.onEdwards
  unfold OnEdwards at h
  ext
  · simp only [add_x, neg_x, neg_y, zero_x, sumX]
    rw [div_eq_zero_iff]
    left
    ring
  · simp only [neg_x, neg_y] at hminus
    simp only [add_y, neg_x, neg_y, zero_y, sumY]
    rw [div_eq_one_iff_eq hminus, cross]
    linear_combination h

/-- **The points of a complete curve form a commutative group.** -/
instance instAddCommGroup : AddCommGroup (EdwardsPoint d) where
  add_assoc p q r := by
    ext
    · exact hd.out.sumX_assoc p.onEdwards q.onEdwards r.onEdwards
    · exact hd.out.sumY_assoc p.onEdwards q.onEdwards r.onEdwards
  zero_add p := by ext <;> simp [sumX, sumY, cross]
  add_zero p := by ext <;> simp [sumX, sumY, cross]
  neg_add_cancel := neg_add
  add_comm p q := by
    ext
    · simp only [add_x, sumX, cross]
      congr 1 <;> ring
    · simp only [add_y, sumY, cross]
      congr 1 <;> ring
  nsmul := nsmulRec
  zsmul := zsmulRec

end EdwardsPoint

end RollupWallet.Curve
