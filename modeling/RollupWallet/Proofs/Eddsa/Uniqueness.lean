import Mathlib
import RollupWallet.Proofs.Curve.Encoding
import RollupWallet.Proofs.Curve.Order
import RollupWallet.Proofs.Eddsa.Correctness

/-!
# What an accepted signature determines

A signature is accepted exactly if its first half reads as a point `R`, its second half is a scalar
`S` below the order of the subgroup, and `8 S B = 8 (R + h A)` holds in the group of the curve
(`PublicKey.verify_eq_ok_iff`).

* Given the key, the message and `R`, the right side is given.  What clearing the cofactor leaves of
  the generator has the order of the subgroup, so its multiples by different scalars differ and there
  is at most one `S` (`PublicKey.response_unique`).  Nothing is asked of the key.
* Given the key and the signature, `8 h A` is given.  If `8 A` is not zero, the challenge is given as
  well (`Accepts.challenge_eq`).  If it is zero, the challenge does not enter, and one signature is
  accepted for every message (`PublicKey.verify_blank`).
-/

namespace RollupWallet.Eddsa

open Curve

/-- A signature is accepted for a message under the key `a`, and `r` is the point in its first half. -/
structure Accepts (a r : CurvePoint) (message : Bytes) (sig : Signature) : Prop where
  read : Point.decompress sig.r = .ok r.toPoint
  response_lt : sig.s.toNat < subgroupOrder
  equation : cofactor • sig.s.toNat • CurvePoint.generator =
    cofactor • (r + (challenge r.toPoint a.toPoint message).val • a)

/-! ### The verifier and its equation -/

namespace PublicKey

variable {key : PublicKey} {message : Bytes} {sig : Signature}

theorem verify_of_offCurve (hcurve : key.point.onCurve = false) :
    key.verify message sig = .error .invalidPublicKey := by
  unfold verify
  rw [hcurve]
  rfl

theorem verify_of_unread (hcurve : key.point.onCurve = true) {fault : Point.EncodingFault}
    (hr : Point.decompress sig.r = .error fault) :
    key.verify message sig = .error .invalidSignature := by
  unfold verify
  rw [hcurve, hr]
  rfl

theorem verify_of_large (hcurve : key.point.onCurve = true) {r : Point}
    (hr : Point.decompress sig.r = .ok r) (hs : subgroupOrder ≤ sig.s.toNat) :
    key.verify message sig = .error .invalidSignature := by
  unfold verify
  rw [hcurve, hr]
  simp only [Bool.not_true, Bool.false_eq_true, ↓reduceIte, hs, Except.mapError, bind, Except.bind]
  rfl

theorem verify_toPoint {a r : CurvePoint} (hread : Point.decompress sig.r = .ok r.toPoint)
    (hs : sig.s.toNat < subgroupOrder) :
    verify ⟨a.toPoint⟩ message sig =
      if (cofactor • sig.s.toNat • CurvePoint.generator).toPoint =
          (cofactor • (r + (challenge r.toPoint a.toPoint message).val • a)).toPoint
      then .ok () else .error .verificationFailed := by
  have hcurve : (PublicKey.mk a.toPoint).point.onCurve = true := a.onCurve_toPoint
  rw [verify_eq hcurve hread hs, ← CurvePoint.toPoint_generator, CurvePoint.toPoint_mul,
    CurvePoint.toPoint_mul, CurvePoint.toPoint_add, CurvePoint.toPoint_clearCofactor,
    CurvePoint.toPoint_clearCofactor]

/-- **A signature is accepted exactly if it is well-formed and satisfies the equation.** -/
theorem verify_eq_ok_iff :
    key.verify message sig = .ok () ↔
      ∃ a r : CurvePoint, key.point = a.toPoint ∧ Accepts a r message sig := by
  constructor
  · -- whatever the verifier may object to is ruled out in the order in which it looks
    intro h
    cases hcurve : key.point.onCurve with
    | false =>
        rw [verify_of_offCurve hcurve] at h
        cases h
    | true =>
    cases hread : Point.decompress sig.r with
    | error fault =>
        rw [verify_of_unread hcurve hread] at h
        cases h
    | ok point =>
    rcases Nat.lt_or_ge sig.s.toNat subgroupOrder with hs | hs
    · obtain ⟨a, ha⟩ := Point.exists_curvePoint hcurve
      obtain ⟨r, rfl⟩ := Point.exists_curvePoint (Point.ReadsAs.of_decompress hread).onCurve
      obtain ⟨_⟩ := key
      obtain rfl := ha
      rw [verify_toPoint hread hs] at h
      split at h
      · next heq => exact ⟨a, r, rfl, hread, hs, CurvePoint.toPoint_injective heq⟩
      · cases h
    · rw [verify_of_large hcurve hread hs] at h
      cases h
  · rintro ⟨a, r, ha, h⟩
    obtain ⟨_⟩ := key
    obtain rfl := ha
    rw [verify_toPoint h.read h.response_lt, if_pos (congrArg _ h.equation)]

end PublicKey

/-! ### The first half and the response -/

namespace Accepts

variable {a r r₁ r₂ : CurvePoint} {message m₁ m₂ : Bytes} {sig sig₁ sig₂ : Signature}

theorem point_eq (h₁ : Accepts a r₁ m₁ sig₁) (h₂ : Accepts a r₂ m₂ sig₂) (hr : sig₁.r = sig₂.r) :
    r₁ = r₂ := by
  have hread := h₁.read
  rw [hr, h₂.read] at hread
  exact (CurvePoint.toPoint_injective (Except.ok.inj hread)).symm

/-- The equation of the verifier has one solution for the response. -/
theorem response_eq (h₁ : Accepts a r message sig₁) (h₂ : Accepts a r message sig₂) :
    sig₁.s = sig₂.s := by
  have hmultiples := h₁.equation.trans h₂.equation.symm
  exact FixedBytes.toNat_injective
    (CurvePoint.eq_of_clear_nsmul_eq CurvePoint.cofactor_nsmul_generator_ne_zero h₁.response_lt
      h₂.response_lt hmultiples)

/-- Unless clearing the cofactor leaves nothing of the key, the equation has one solution for the
challenge. -/
theorem challenge_eq (ha : cofactor • a ≠ 0) (h₁ : Accepts a r m₁ sig) (h₂ : Accepts a r m₂ sig) :
    challenge r.toPoint a.toPoint m₁ = challenge r.toPoint a.toPoint m₂ := by
  have hsides := h₁.equation.symm.trans h₂.equation
  rw [nsmul_add, nsmul_add] at hsides
  have hmultiples := add_left_cancel hsides
  exact Fin.ext (CurvePoint.eq_of_clear_nsmul_eq ha (Fin.isLt _) (Fin.isLt _) hmultiples)

end Accepts

/-- **The first half of an accepted signature determines the second**, whatever the key is. -/
theorem PublicKey.response_unique (key : PublicKey) (message : Bytes) (r s₁ s₂ : Bytes32)
    (h₁ : key.verify message ⟨r, s₁⟩ = .ok ()) (h₂ : key.verify message ⟨r, s₂⟩ = .ok ()) :
    s₁ = s₂ := by
  obtain ⟨a₁, point₁, ha₁, h₁⟩ := verify_eq_ok_iff.mp h₁
  obtain ⟨a₂, point₂, ha₂, h₂⟩ := verify_eq_ok_iff.mp h₂
  obtain rfl := CurvePoint.toPoint_injective (ha₁.symm.trans ha₂)
  obtain rfl := h₁.point_eq h₂ rfl
  exact h₁.response_eq h₂

/-- A signature of the empty message. -/
theorem PublicKey.response_unique_sign :
    let key := SecretKey.ofSeedBytes []
    let sig := key.sign []
    let written := FixedBytes.ofNat 32 sig.s.toNat
    key.publicKey.verify [] sig = .ok () ∧ key.publicKey.verify [] ⟨sig.r, written⟩ = .ok () ∧
      sig.s = written := by
  intro key sig written
  have hwritten : written = sig.s := by
    apply FixedBytes.toNat_injective
    rw [FixedBytes.toNat_ofNat, Nat.mod_eq_of_lt sig.s.toNat_lt]
  have h₁ : key.publicKey.verify [] sig = .ok () :=
    (SecretKey.consistent_ofSeedBytes []).verify_sign []
  have h₂ : key.publicKey.verify [] ⟨sig.r, written⟩ = .ok () := hwritten ▸ h₁
  exact ⟨h₁, h₂, PublicKey.response_unique key.publicKey [] sig.r sig.s written h₁ h₂⟩

/-! ### One signature for several messages -/

/-- A signature is accepted for two messages only if their challenges are the same, unless clearing
the cofactor leaves nothing of the key. -/
theorem PublicKey.challenge_eq_of_verify {a : CurvePoint} (ha : cofactor • a ≠ 0) {m₁ m₂ : Bytes}
    {sig : Signature} (h₁ : verify ⟨a.toPoint⟩ m₁ sig = .ok ())
    (h₂ : verify ⟨a.toPoint⟩ m₂ sig = .ok ()) :
    ∃ r, Point.decompress sig.r = .ok r ∧
      challenge r a.toPoint m₁ = challenge r a.toPoint m₂ := by
  obtain ⟨a₁, r₁, ha₁, h₁⟩ := verify_eq_ok_iff.mp h₁
  obtain ⟨a₂, r₂, ha₂, h₂⟩ := verify_eq_ok_iff.mp h₂
  obtain rfl := CurvePoint.toPoint_injective ha₁
  obtain rfl := CurvePoint.toPoint_injective ha₂
  obtain rfl := h₁.point_eq h₂ rfl
  exact ⟨r₁.toPoint, h₁.read, h₁.challenge_eq ha h₂⟩

/-- The signature whose point is the neutral element and whose response is zero. -/
def Signature.blank : Signature := ⟨Point.zero.compress, FixedBytes.ofNat 32 0⟩

/-- **A key that clearing the cofactor leaves nothing of accepts one signature for every message.** -/
theorem PublicKey.verify_blank {a : CurvePoint} (ha : cofactor • a = 0) (message : Bytes) :
    verify ⟨a.toPoint⟩ message .blank = .ok () := by
  -- with neither `R` nor `S`, the equation says that `8 h A` is zero
  have hs : Signature.blank.s.toNat = 0 := by decide
  have hread : Point.decompress Signature.blank.r = .ok (0 : CurvePoint).toPoint :=
    CurvePoint.decompress_compress 0
  refine verify_eq_ok_iff.mpr ⟨a, 0, rfl, hread, ?_, ?_⟩
  · rw [hs]
    decide
  · rw [hs, zero_nsmul, nsmul_zero, zero_add, smul_comm, ha, nsmul_zero]

end RollupWallet.Eddsa
