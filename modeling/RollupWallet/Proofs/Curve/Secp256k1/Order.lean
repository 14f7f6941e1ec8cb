import Mathlib
import RollupWallet.Proofs.Curve.Secp256k1.Generator

/-!
# The points of the curve of layer 1

The curve has as many points as the order of its generator (`GroupPoint.card_eq`), so every point is
a multiple of the generator (`GroupPoint.exists_multiple`).

A point is determined by its first coordinate and the parity of its second, which leaves room for
almost twice the order (`GroupPoint.card_le`).  What excludes the second multiple is that the number
of points is odd: no point is its own opposite.
-/

namespace RollupWallet.Curve.Secp256k1.GroupPoint

/-! ### A bound from above -/

/-- What determines a point: its first coordinate and the parity of its second. -/
def halves : Point → Option (Coordinate × Bool)
  | .zero => none
  | .affine x y => some (x, decide (y.val % 2 = 1))

theorem injective_halves : Function.Injective fun p : GroupPoint => halves p.toPoint := by
  intro p q h
  apply toPoint_injective
  simp only at h
  cases hp : p.toPoint with
  | zero =>
      cases hq : q.toPoint with
      | zero => rfl
      | affine x' y' =>
          rw [hp, hq] at h
          cases h
  | affine x y =>
      cases hq : q.toPoint with
      | zero =>
          rw [hp, hq] at h
          cases h
      | affine x' y' =>
          rw [hp, hq] at h
          obtain ⟨rfl, hparity⟩ := Prod.mk.inj (Option.some.inj h)
          have hcurve := onCurve_of_affine hq
          have hsquare : y * y = y' * y' := (onCurve_of_affine hp).trans hcurve.symm
          rcases mul_self_eq_mul_self_iff.mp hsquare with rfl | rfl
          · rfl
          · -- of opposite coordinates one is odd
            rw [decide_eq_decide, odd_neg_iff hcurve.y_ne_zero] at hparity
            exact (iff_not_self hparity.symm).elim

instance : Finite GroupPoint := Finite.of_injective _ injective_halves

theorem card_le : Nat.card GroupPoint ≤ prime * 2 + 1 := by
  have hle := Nat.card_le_card_of_injective _ injective_halves
  rw [Finite.card_option, Nat.card_prod, Nat.card_eq_fintype_card (α := Bool), Nat.card_fin,
    Fintype.card_bool] at hle
  exact hle

/-! ### The number of points -/

/-- No point is its own opposite. -/
theorem two_nsmul_ne_zero {p : GroupPoint} (hp : p ≠ 0) : 2 • p ≠ 0 := by
  intro h
  rw [two_nsmul, add_eq_zero_iff_eq_neg] at h
  cases hpoint : p.toPoint with
  | zero => exact hp (toPoint_injective hpoint)
  | affine x y =>
      have hneg := toPoint_neg_of_affine hpoint
      rw [← h, hpoint] at hneg
      have hcurve := onCurve_of_affine hpoint
      exact hcurve.ne_negY ((Point.affine.inj hneg).2.trans (negY_eq x y).symm)

theorem odd_card : ¬ 2 ∣ Nat.card GroupPoint := by
  intro h
  obtain ⟨p, hp⟩ := exists_prime_addOrderOf_dvd_card' 2 h
  have hne : p ≠ 0 := by
    rintro rfl
    rw [addOrderOf_zero] at hp
    cases hp
  exact two_nsmul_ne_zero hne (hp ▸ addOrderOf_nsmul_eq_zero p)

/-- **The number of points of the curve.** -/
theorem card_eq : Nat.card GroupPoint = order := by
  obtain ⟨n, hn⟩ : order ∣ Nat.card GroupPoint :=
    addOrderOf_generator ▸ addOrderOf_dvd_natCard generator
  have hle := hn ▸ card_le
  have hodd := hn ▸ odd_card
  have hbound : prime * 2 + 1 < order * 3 := by decide
  have hn3 : n < 3 := lt_of_mul_lt_mul_left (hle.trans_lt hbound) (Nat.zero_le order)
  have hn2 : n ≠ 2 := fun h => hodd (h ▸ dvd_mul_left 2 order)
  have hn0 : n ≠ 0 := fun h => hodd (h ▸ dvd_zero 2)
  have hn1 : n = 1 := by omega
  rw [hn, hn1, mul_one]

/-- **Every point is a multiple of the generator.** -/
theorem exists_multiple (p : GroupPoint) : ∃ s : Scalar, multiple s = p := by
  have htop : AddSubgroup.zmultiples generator = ⊤ :=
    AddSubgroup.eq_top_of_card_eq _ (by rw [Nat.card_zmultiples, addOrderOf_generator, card_eq])
  have hmem : p ∈ AddSubgroup.zmultiples generator := htop ▸ AddSubgroup.mem_top p
  obtain ⟨n, rfl⟩ := mem_multiples_iff_mem_zmultiples.mpr hmem
  exact ⟨Fin.ofNat order n, nsmul_generator_eq_iff.mpr (Nat.mod_modEq n order)⟩

end RollupWallet.Curve.Secp256k1.GroupPoint
