import Mathlib
import RollupWallet.Proofs.Curve.Encoding
import RollupWallet.Proofs.Curve.Order

/-!
# Which words read as points

Reading a compressed point may break off at four places.  At two of them it never does.

* The denominator of `x²` has an inverse, since `d` is no square (`denominator_ne_zero`).
* The point that is found is on the curve.  Its first coordinate is a root of the quotient, or the
  negation of one, and the equation of the curve asks for no more (`onCurve_of_sqrt?`).

So a word is refused for its second coordinate alone: the number is no element of the field, or no
point of the curve has it.  Where some point has it, so has its mirror image, and one of the two has
the sign that the top bit asks for (`ReadsAs.exists_of_y_eq`).
-/

namespace RollupWallet.Curve.Point

/-! ### The root leads to a point -/

/-- A root of the quotient solves the equation of the curve. -/
theorem onEdwards_of_mul_self_eq {x y : Felt}
    (h : x * x = (1 - y * y) * Arith.inv (-1 - edwardsD * (y * y))) : OnEdwards edwardsD x y := by
  have hsolved : x * x * (-1 - edwardsD * (y * y)) = 1 - y * y := by
    rw [h, Felt.inv_eq, mul_assoc, inv_mul_cancel₀ (denominator_ne_zero y), mul_one]
  unfold OnEdwards
  linear_combination hsolved

/-- Whatever sign is asked for, the point that is found is on the curve. -/
theorem onCurve_of_sqrt? {y root : Felt} (sign : Bool)
    (h : fieldTwoPart.sqrt? ((1 - y * y) * Arith.inv (-1 - edwardsD * (y * y))) = some root) :
    onCurve ⟨if isLargest root != sign then -root else root, y⟩ = true := by
  have hroot := Arith.TwoPart.sqrt?_mul_self h
  rw [onCurve_iff]
  apply onEdwards_of_mul_self_eq
  split
  · rw [neg_mul_neg, hroot]
  · exact hroot

/-! ### The faults of a word -/

variable {word : Bytes32} {p : Point}

theorem ofNat?_eq_none_iff {n : ℕ} : Felt.ofNat? n = none ↔ fieldModulus ≤ n := by
  unfold Felt.ofNat?
  split
  · next hlt => exact iff_of_false nofun (Nat.not_le_of_lt hlt)
  · next hle => exact iff_of_true rfl (Nat.le_of_not_lt hle)

/-- **The faults that occur.**  Either the number below the top bit is not an element, or there is no
root. -/
theorem fault_of_decompress {fault : EncodingFault} (h : decompress word = .error fault) :
    fault = .notCanonical ∧ fieldModulus ≤ Bytes.toNatLE word.bytes % 2 ^ 255 ∨
      fault = .noRoot ∧ Bytes.toNatLE word.bytes % 2 ^ 255 < fieldModulus := by
  cases hy : Felt.ofNat? (Bytes.toNatLE word.bytes % Nat.pow 2 255) with
  | none =>
      rw [decompress_of_notCanonical hy] at h
      exact .inl ⟨(Except.error.inj h).symm, ofNat?_eq_none_iff.mp hy⟩
  | some y =>
      cases hroot : fieldTwoPart.sqrt? ((1 - y * y) * Arith.inv (-1 - edwardsD * (y * y))) with
      | none =>
          have hvalue : Bytes.toNatLE word.bytes % Nat.pow 2 255 = y.val :=
            Felt.ofNat?_eq_some_iff.mp hy
          rw [decompress_of_noRoot hy hroot] at h
          exact .inr ⟨(Except.error.inj h).symm, hvalue ▸ y.isLt⟩
      | some root =>
          rw [decompress_of_root hy hroot rfl, onCurve_of_sqrt? _ hroot] at h
          cases h

/-! ### The words of a second coordinate -/

/-- A point or its mirror image has the sign that the top bit asks for. -/
theorem ReadsAs.exists_of_y_eq (hcurve : p.onCurve = true)
    (hy : p.y.val = Bytes.toNatLE word.bytes % 2 ^ 255) : ∃ q, ReadsAs word q := by
  obtain ⟨q, rfl⟩ := exists_curvePoint hcurve
  by_cases hsign : (Bytes.toNatLE word.bytes).testBit 255 = isLargest q.x
  · exact ⟨q.toPoint, q.onCurve_toPoint, hy.symm, fun _ => hsign⟩
  · refine ⟨(-q).toPoint, (-q).onCurve_toPoint, hy.symm, fun hx => ?_⟩
    have hneg : isLargest (-q.x) = !isLargest q.x := isLargest_neg (neg_ne_zero.mp hx)
    show _ = isLargest (-q.x)
    rw [hneg]
    exact Bool.eq_not.mpr hsign

theorem exists_decompress_iff :
    (∃ p, decompress word = .ok p) ↔
      ∃ p : Point, p.onCurve = true ∧ p.y.val = Bytes.toNatLE word.bytes % 2 ^ 255 := by
  constructor
  · rintro ⟨p, h⟩
    have hreads := ReadsAs.of_decompress h
    exact ⟨p, hreads.onCurve, hreads.y_eq.symm⟩
  · rintro ⟨p, hcurve, hy⟩
    obtain ⟨q, hreads⟩ := ReadsAs.exists_of_y_eq hcurve hy
    exact ⟨q, hreads.decompress_eq⟩

/-- **A word is read exactly if some point of the curve has its second coordinate.**  What is read is
such a point, and where its first coordinate is not zero, it has the sign that the top bit asks for.
Every point of the curve is read from its compressed form.  A word that is not read is refused because
its number is no element of the field, or because there is no root; a vanishing denominator and a
point off the curve are never reported. -/
theorem decompress_decides (word : Bytes32) :
    let y := Bytes.toNatLE word.bytes % 2 ^ 255
    ((∃ p, decompress word = .ok p) ↔
      y < fieldModulus ∧ ∃ p : Point, p.onCurve = true ∧ p.y.val = y) ∧
    (∀ p, decompress word = .ok p → p.onCurve = true ∧ p.y.val = y ∧
      (p.x ≠ 0 → ((fieldModulus - 1) / 2 < p.x.val ↔
        (Bytes.toNatLE word.bytes).testBit 255 = true))) ∧
    (∀ p : Point, p.onCurve = true → decompress p.compress = .ok p) ∧
    (∀ fault, decompress word = .error fault →
      fault = .notCanonical ∧ fieldModulus ≤ y ∨ fault = .noRoot ∧ y < fieldModulus) ∧
    decompress word ≠ .error .noDenominator ∧ decompress word ≠ .error .offCurve := by
  intro y
  have hfault : ∀ fault, decompress word = .error fault →
      fault = .notCanonical ∧ fieldModulus ≤ y ∨ fault = .noRoot ∧ y < fieldModulus :=
    fun _ => fault_of_decompress
  refine ⟨?_, fun p h => ?_, fun p hcurve => ?_, hfault, fun h => ?_, fun h => ?_⟩
  · rw [exists_decompress_iff]
    exact ⟨fun ⟨p, hcurve, hy⟩ => ⟨hy.symm.trans_lt p.y.isLt, p, hcurve, hy⟩, fun ⟨_, hp⟩ => hp⟩
  · have hreads := ReadsAs.of_decompress h
    refine ⟨hreads.onCurve, hreads.y_eq.symm, fun hx => ?_⟩
    rw [hreads.sign_eq hx]
    exact decide_eq_true_iff.symm
  · obtain ⟨q, rfl⟩ := exists_curvePoint hcurve
    exact q.decompress_compress
  · rcases hfault _ h with ⟨h, _⟩ | ⟨h, _⟩ <;> cases h
  · rcases hfault _ h with ⟨h, _⟩ | ⟨h, _⟩ <;> cases h

/-- The word that says 2. -/
def wordTwo : Bytes32 := ⟨2 :: List.replicate 31 0, by decide⟩

/-- A point of order eight and the one of order two, which has no sign; and the number two, which no
point of the curve has. -/
theorem decompress_decides_torsion :
    CurvePoint.torsion.toPoint.inSubgroup = false ∧
      decompress CurvePoint.torsion.toPoint.compress = .ok CurvePoint.torsion.toPoint ∧
      CurvePoint.halfTurn.toPoint.x = 0 ∧
      decompress CurvePoint.halfTurn.toPoint.compress = .ok CurvePoint.halfTurn.toPoint ∧
      decompress wordTwo = .error .noRoot ∧ ¬ ∃ p : Point, p.onCurve = true ∧ p.y.val = 2 := by
  have htorsion : CurvePoint.torsion.toPoint.inSubgroup = false := by decide +kernel
  have htwo : decompress wordTwo = .error .noRoot := by decide +kernel
  obtain ⟨hread, _, hround, _⟩ := decompress_decides wordTwo
  refine ⟨htorsion, hround _ CurvePoint.torsion.onCurve_toPoint, rfl,
    hround _ CurvePoint.halfTurn.onCurve_toPoint, htwo, fun hp => ?_⟩
  have hnumber : Bytes.toNatLE wordTwo.bytes % 2 ^ 255 = 2 := by decide
  rw [hnumber] at hread
  obtain ⟨p, hp⟩ := hread.mpr ⟨by decide, hp⟩
  cases htwo.symm.trans hp

end RollupWallet.Curve.Point
