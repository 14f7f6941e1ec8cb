import Mathlib
import RollupWallet.Eddsa
import RollupWallet.Proofs.Curve.Compression

/-!
# Signatures are accepted

A key signs `R = b B` and `S = h s + b`, where `b` is the blinding scalar and `h` the challenge.
The verifier computes the same challenge, because it reads `R` back from its compressed form
(`CurvePoint.decompress_compress`) and knows the same key, and

```text
S B = (h s + b) B = b B + h (s B) = R + h A
```

because multiples of the generator depend on the multiplier modulo the order of the subgroup only
(`CurvePoint.mod_nsmul_generator`).  The equation holds before the cofactor is cleared, so it holds
after.
-/

namespace RollupWallet.Eddsa

open Curve

/-- The public key of a secret key is the multiple of the generator that its scalar asks for. -/
def SecretKey.Consistent (key : SecretKey) : Prop :=
  key.publicKey.point = (key.scalar.val • CurvePoint.generator).toPoint

theorem SecretKey.consistent_ofSeedBytes (seed : Bytes) : (ofSeedBytes seed).Consistent :=
  CurvePoint.toPoint_mul CurvePoint.generator _

/-- A seed with at least one character derives a key. -/
theorem SecretKey.exists_ofSeed_eq_ok {seed : String} (hseed : seed ≠ "") :
    ∃ key : SecretKey, SecretKey.ofSeed seed = .ok key ∧ key.Consistent := by
  refine ⟨ofSeedBytes _, if_neg hseed, ?_⟩
  exact consistent_ofSeedBytes _

/-! ### The response -/

/-- A scalar fits into the 32 bytes that a signature has for it. -/
theorem toNat_ofNat_scalar (s : Scalar) : (FixedBytes.ofNat 32 s.val).toNat = s.val := by
  have hlt : s.val < 256 ^ 32 := Nat.lt_trans s.isLt (by decide)
  rw [FixedBytes.toNat_ofNat, Nat.mod_eq_of_lt hlt]

/-- **The signing equation**, as an equation of points. -/
theorem nsmul_response (h s b : Scalar) :
    (h * s + b).val • CurvePoint.generator =
      b.val • CurvePoint.generator + h.val • s.val • CurvePoint.generator := by
  calc (h * s + b).val • CurvePoint.generator
      = (h.val * s.val + b.val) • CurvePoint.generator := by
        rw [Fin.val_add, Fin.val_mul, CurvePoint.mod_nsmul_generator, add_nsmul,
          CurvePoint.mod_nsmul_generator, ← add_nsmul]
    _ = b.val • CurvePoint.generator + h.val • s.val • CurvePoint.generator := by
        rw [add_nsmul, add_comm, mul_comm, mul_nsmul]

/-! ### The verifier -/

/-- Once a signature is read, the verifier compares two points. -/
theorem PublicKey.verify_eq {key : PublicKey} {message : Bytes} {sig : Signature} {r : Point}
    (hcurve : key.point.onCurve = true) (hr : Point.decompress sig.r = .ok r)
    (hs : sig.s.toNat < subgroupOrder) :
    key.verify message sig =
      if (Point.generator.mul sig.s.toNat).clearCofactor =
          (r.add (key.point.mul (challenge r key.point message).val)).clearCofactor
      then .ok () else .error .verificationFailed := by
  have hle : ¬ subgroupOrder ≤ sig.s.toNat := Nat.not_le.mpr hs
  unfold PublicKey.verify
  rw [hr, hcurve]
  simp only [Bool.not_true, Bool.false_eq_true, ↓reduceIte, hle, Except.mapError, bind,
    Except.bind, pure, Except.pure]
  rfl

/-- A signature is accepted if it compresses a point `R` of the curve, its scalar is below the order
of the subgroup, and the equation of the verifier holds. -/
theorem PublicKey.verify_eq_ok {key : PublicKey} {message : Bytes} {sig : Signature}
    {a r : CurvePoint} (ha : key.point = a.toPoint) (hr : sig.r = r.toPoint.compress)
    (hs : sig.s.toNat < subgroupOrder)
    (heq : sig.s.toNat • CurvePoint.generator =
      r + (challenge r.toPoint a.toPoint message).val • a) :
    key.verify message sig = .ok () := by
  have hcurve : key.point.onCurve = true := by
    rw [ha]
    exact a.onCurve_toPoint
  have hread : Point.decompress sig.r = .ok r.toPoint := by
    rw [hr, CurvePoint.decompress_compress]
  rw [verify_eq hcurve hread hs, ha, ← CurvePoint.toPoint_generator, CurvePoint.toPoint_mul, heq,
    CurvePoint.toPoint_mul, CurvePoint.toPoint_add, if_pos rfl]

/-- **What a consistent key signs is accepted.** -/
theorem SecretKey.Consistent.verify_sign {key : SecretKey} (hkey : key.Consistent)
    (message : Bytes) : key.publicKey.verify message (key.sign message) = .ok () := by
  have hr : Point.generator.mul (key.blinding message).val =
      ((key.blinding message).val • CurvePoint.generator).toPoint :=
    CurvePoint.toPoint_mul CurvePoint.generator _
  -- the point `R` is that of the curve, the response is a scalar, and the equation is the signer's
  refine PublicKey.verify_eq_ok hkey (congrArg Point.compress hr) ?_ ?_
  · show (FixedBytes.ofNat 32 (Fin.val _)).toNat < subgroupOrder
    rw [toNat_ofNat_scalar]
    exact Fin.isLt _
  · show (FixedBytes.ofNat 32 (Fin.val _)).toNat • CurvePoint.generator = _
    rw [toNat_ofNat_scalar, nsmul_response, hr, hkey]

/-- **Every key that a seed derives signs every message so that its public key accepts the
signature.** -/
theorem verify_sign_of_seed (seed : String) (hseed : seed ≠ "") :
    ∃ key : SecretKey, SecretKey.ofSeed seed = .ok key ∧
      ∀ message : Bytes, key.publicKey.verify message (key.sign message) = .ok () := by
  obtain ⟨key, hkey, hconsistent⟩ := SecretKey.exists_ofSeed_eq_ok hseed
  exact ⟨key, hkey, hconsistent.verify_sign⟩

theorem verify_sign_of_seed_word : "wallet" ≠ "" ∧
    ∃ key : SecretKey, SecretKey.ofSeed "wallet" = .ok key ∧
      ∀ message : Bytes, key.publicKey.verify message (key.sign message) = .ok () :=
  ⟨by decide, verify_sign_of_seed "wallet" (by decide)⟩

end RollupWallet.Eddsa
