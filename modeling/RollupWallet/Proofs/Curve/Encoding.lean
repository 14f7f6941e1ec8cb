import Mathlib
import RollupWallet.Eddsa
import RollupWallet.Field.Lemmas
import RollupWallet.Proofs.Curve.Compression

/-!
# The words that read as a point

Reading a compressed point settles three things: the point is on the curve, its second coordinate is
the number below the top bit, and the top bit is the sign of its first coordinate, unless that is zero
(`Point.decompress_eq_ok_iff`).

Zero has no sign, and the top bit is not looked at then.  So a point with `x ≠ 0` is read from its
compressed form and from no other word, but `(0, 1)` and `(0, -1)` are read from a second word each,
the one with the top bit set (`Point.decompress_eq_ok_iff_compress`).
-/

namespace RollupWallet.Curve.Point

/-! ### The steps of reading -/

section Steps

variable {word : Bytes32} {y root : Felt} {p : Point}

theorem decompress_of_notCanonical
    (hy : Felt.ofNat? (Bytes.toNatLE word.bytes % Nat.pow 2 255) = none) :
    decompress word = .error .notCanonical := by
  unfold decompress
  simp only [hy]
  rfl

theorem decompress_of_noRoot
    (hy : Felt.ofNat? (Bytes.toNatLE word.bytes % Nat.pow 2 255) = some y)
    (hroot : fieldTwoPart.sqrt? ((1 - y * y) * Arith.inv (-1 - edwardsD * (y * y))) = none) :
    decompress word = .error .noRoot := by
  unfold decompress
  simp only [hy, denominator_ne_zero, if_false, hroot]
  rfl

theorem decompress_of_root
    (hy : Felt.ofNat? (Bytes.toNatLE word.bytes % Nat.pow 2 255) = some y)
    (hroot : fieldTwoPart.sqrt? ((1 - y * y) * Arith.inv (-1 - edwardsD * (y * y))) = some root)
    (hp : p = ⟨if isLargest root != (Bytes.toNatLE word.bytes).testBit 255 then -root else root, y⟩) :
    decompress word = if p.onCurve then .ok p else .error .offCurve := by
  unfold decompress
  simp only [hy, denominator_ne_zero, if_false, hroot, ← hp]
  rfl

end Steps

/-! ### What reading settles -/

theorem isLargest_zero : isLargest 0 = false := by decide

theorem exists_curvePoint {p : Point} (h : p.onCurve = true) : ∃ q : CurvePoint, q.toPoint = p :=
  ⟨⟨p.x, p.y, (onCurve_iff p).mp h⟩, rfl⟩

/-- A root with its sign fixed has the sign that is asked for, unless it is zero. -/
theorem isLargest_fix {root : Felt} {sign : Bool}
    (h : (if isLargest root != sign then -root else root) ≠ 0) :
    isLargest (if isLargest root != sign then -root else root) = sign := by
  by_cases hsign : isLargest root = sign
  · rw [if_neg (by simp [hsign])]
    exact hsign
  · have hne : (isLargest root != sign) = true := by simp [hsign]
    rw [if_pos hne] at h ⊢
    rw [isLargest_neg (neg_ne_zero.mp h)]
    cases sign <;> simp_all

/-- What a word settles about the point that is read from it. -/
structure ReadsAs (word : Bytes32) (p : Point) : Prop where
  onCurve : p.onCurve = true
  y_eq : Bytes.toNatLE word.bytes % 2 ^ 255 = p.y.val
  sign_eq : p.x ≠ 0 → (Bytes.toNatLE word.bytes).testBit 255 = isLargest p.x

theorem ReadsAs.of_decompress {word : Bytes32} {p : Point} (h : decompress word = .ok p) :
    ReadsAs word p := by
  cases hy : Felt.ofNat? (Bytes.toNatLE word.bytes % Nat.pow 2 255) with
  | none =>
      rw [decompress_of_notCanonical hy] at h
      cases h
  | some y =>
      cases hroot : fieldTwoPart.sqrt? ((1 - y * y) * Arith.inv (-1 - edwardsD * (y * y))) with
      | none =>
          rw [decompress_of_noRoot hy hroot] at h
          cases h
      | some root =>
          obtain ⟨q, hq⟩ : ∃ q : Point, q =
              ⟨if isLargest root != (Bytes.toNatLE word.bytes).testBit 255 then -root else root, y⟩ :=
            ⟨_, rfl⟩
          rw [decompress_of_root hy hroot hq] at h
          split at h
          · next hcurve =>
            obtain rfl := Except.ok.inj h
            refine ⟨hcurve, ?_, fun hx => ?_⟩
            · rw [hq]
              exact Felt.ofNat?_eq_some_iff.mp hy
            · rw [hq] at hx ⊢
              exact (isLargest_fix hx).symm
          · cases h

theorem ReadsAs.decompress_eq {word : Bytes32} {p : Point} (h : ReadsAs word p) :
    decompress word = .ok p := by
  obtain ⟨q, rfl⟩ := exists_curvePoint h.onCurve
  have hy : Felt.ofNat? (Bytes.toNatLE word.bytes % Nat.pow 2 255) = some q.toPoint.y := by
    have hpow : Nat.pow 2 255 = 2 ^ 255 := rfl
    rw [hpow, h.y_eq, Felt.ofNat?_val]
  obtain ⟨root, hroot, hsquare⟩ := Felt.exists_sqrt?_eq_some ⟨q.x, q.mul_self_x⟩
  rw [q.mul_self_x] at hsquare
  -- of the two roots the sign picks the first coordinate, and at zero there is only one
  have hfix : (if isLargest root != (Bytes.toNatLE word.bytes).testBit 255 then -root else root) =
      q.x := by
    by_cases hx : q.x = 0
    · have hzero : root = 0 := by simpa [hx] using hsquare
      simp [hx, hzero]
    · rw [h.sign_eq hx]
      exact sign_fix hsquare
  rw [decompress_of_root hy hroot (p := q.toPoint) (by rw [hfix]; rfl), q.onCurve_toPoint]
  rfl

/-- **The words that read as a point.** -/
theorem decompress_eq_ok_iff {word : Bytes32} {p : Point} :
    decompress word = .ok p ↔ ReadsAs word p :=
  ⟨ReadsAs.of_decompress, ReadsAs.decompress_eq⟩

/-! ### Words and coordinates -/

/-- Two words read as a point exactly if they are the words of its coordinates. -/
theorem ofCoordinates?_eq_some_iff {x y : Bytes32} {p : Point} :
    ofCoordinates? x y = some p ↔
      x = p.x.toBytes32 ∧ y = p.y.toBytes32 ∧ p.onCurve = true := by
  unfold ofCoordinates?
  simp only [bind, Option.bind_eq_some_iff, Felt.ofBytes32?_eq_some_iff, Option.ite_none_right_eq_some,
    Option.some.injEq]
  constructor
  · rintro ⟨x, rfl, y, rfl, hcurve, rfl⟩
    exact ⟨rfl, rfl, hcurve⟩
  · rintro ⟨rfl, rfl, hcurve⟩
    exact ⟨p.x, rfl, p.y, rfl, hcurve, rfl⟩

/-! ### Words and compressed forms -/

theorem toNatLE_eq_top_add (word : Bytes32) :
    Bytes.toNatLE word.bytes =
      2 ^ 255 * (if (Bytes.toNatLE word.bytes).testBit 255 then 1 else 0) +
        Bytes.toNatLE word.bytes % 2 ^ 255 := by
  have hlt := word.toNatLE_lt
  generalize Bytes.toNatLE word.bytes = value at hlt ⊢
  have htop : value / 2 ^ 255 < 2 := by omega
  have hbit : value / 2 ^ 255 = if value.testBit 255 then 1 else 0 := by
    rw [Nat.testBit_eq_decide_div_mod_eq, Nat.mod_eq_of_lt htop]
    simp only [decide_eq_true_eq]
    split <;> omega
  rw [← hbit, Nat.div_add_mod]

/-- Only two points of the curve have no sign. -/
theorem eq_of_x_eq_zero {p : Point} (hcurve : p.onCurve = true) (hx : p.x = 0) :
    p = ⟨0, 1⟩ ∨ p = ⟨0, -1⟩ := by
  obtain ⟨x, y⟩ := p
  obtain rfl : x = 0 := hx
  have hsquare : y * y = 1 * 1 := by
    have h := (onCurve_iff _).mp hcurve
    unfold OnEdwards at h
    linear_combination h
  rcases mul_self_eq_mul_self_iff.mp hsquare with rfl | rfl
  · exact .inl rfl
  · exact .inr rfl

/-- A word that reads as a point with a sign is the compressed form of the point. -/
theorem ReadsAs.eq_compress {word : Bytes32} {p : Point} (h : ReadsAs word p)
    (hsign : (Bytes.toNatLE word.bytes).testBit 255 = isLargest p.x) : p.compress = word := by
  apply FixedBytes.eq_of_toNatLE_eq
  rw [toNatLE_compress, toNatLE_eq_top_add word, h.y_eq, hsign]

/-- **A point is read from its compressed form, and from one word more if it has no sign.** -/
theorem decompress_eq_ok_iff_compress {word : Bytes32} {p : Point} :
    decompress word = .ok p ↔
      p.onCurve = true ∧
        (p.compress = word ∨
          (p = ⟨0, 1⟩ ∨ p = ⟨0, -1⟩) ∧ Bytes.toNatLE word.bytes = 2 ^ 255 + p.y.val) := by
  rw [decompress_eq_ok_iff]
  constructor
  · intro h
    refine ⟨h.onCurve, ?_⟩
    by_cases hsign : (Bytes.toNatLE word.bytes).testBit 255 = isLargest p.x
    · exact .inl (h.eq_compress hsign)
    · -- the top bit disagrees only where it is not looked at, and there it is set
      have hx : p.x = 0 := not_not.mp fun hx => hsign (h.sign_eq hx)
      have hbit : (Bytes.toNatLE word.bytes).testBit 255 = true := by
        rw [hx, isLargest_zero] at hsign
        exact Bool.eq_true_of_not_eq_false hsign
      refine .inr ⟨eq_of_x_eq_zero h.onCurve hx, ?_⟩
      rw [toNatLE_eq_top_add word, h.y_eq, if_pos hbit, mul_one]
  · rintro ⟨hcurve, rfl | ⟨hp, hword⟩⟩
    · obtain ⟨q, rfl⟩ := exists_curvePoint hcurve
      exact ReadsAs.of_decompress q.decompress_compress
    · have hx : p.x = 0 := by rcases hp with rfl | rfl <;> rfl
      refine ⟨hcurve, ?_, fun h => absurd hx h⟩
      rw [hword, Nat.add_mod_left, Nat.mod_eq_of_lt (Felt.val_lt_top p.y)]

/-- The compressed form of zero with the top bit set. -/
def signedZero : Bytes32 := ⟨1 :: List.replicate 30 0 ++ [0x80], by decide⟩

/-- The neutral element is read from two words, so what is read need not be written as it was, and
two words name one key. -/
theorem decompress_signedZero :
    signedZero ≠ zero.compress ∧ decompress signedZero = .ok zero ∧
      decompress zero.compress = .ok zero ∧
      Eddsa.PublicKey.ofCompressed signedZero = .ok ⟨zero⟩ ∧
      Eddsa.PublicKey.ofCompressed zero.compress = .ok ⟨zero⟩ := by
  have hread : decompress signedZero = .ok zero := by
    refine ReadsAs.decompress_eq ⟨by decide, by decide, fun h => absurd rfl h⟩
  have hcanonical : decompress zero.compress = .ok zero := CurvePoint.decompress_compress 0
  refine ⟨by decide, hread, hcanonical, ?_, ?_⟩
  · rw [Eddsa.PublicKey.ofCompressed, hread]
  · rw [Eddsa.PublicKey.ofCompressed, hcanonical]

end RollupWallet.Curve.Point
