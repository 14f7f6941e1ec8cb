import Mathlib
import RollupWallet.Proofs.Eddsa.Uniqueness
import RollupWallet.Proofs.Signing

/-!
# The keys that an account can be given

A change of key asks of the new key that its coordinates are those of a point of the curve, and
nothing else: in a change that is valid without a layer-1 signature, any point of the curve may take
the place of the key (`ChangePubKey.validate_withKey`).  Whether the point lies in the subgroup of
prime order is not asked, and the neutral element is not refused.

What a key can do depends on what clearing the cofactor leaves of it, which lies in the subgroup for
every point (`ChangePubKey.exists_point_of_validate`).  If it leaves nothing, one signature is
accepted for all messages.
-/

namespace RollupWallet

open Curve Eddsa

theorem Eddsa.PublicKey.ofCoordinates_eq_ok_iff {x y : Bytes32} {p : Point} :
    PublicKey.ofCoordinates x y = .ok ⟨p⟩ ↔
      x = p.x.toBytes32 ∧ y = p.y.toBytes32 ∧ p.onCurve = true := by
  rw [← Point.ofCoordinates?_eq_some_iff, PublicKey.ofCoordinates]
  cases Point.ofCoordinates? x y with
  | none => exact ⟨nofun, nofun⟩
  | some q => simp

theorem Field.encodes_hash {name : String} (x : Felt) : Encodes ⟨name, .hash x.toBytes32⟩ := by
  have hcanonical : x.toBytes32.isCanonical = true := by
    rw [FixedBytes.isCanonical, Felt.toNat_toBytes32, decide_eq_true_eq]
    exact x.isLt
  refine encodes_iff.mpr ⟨x.toBytes32, ?_⟩
  rw [FieldValue.encode, if_pos hcanonical]

namespace ChangePubKey

variable {context : Context} {op : ChangePubKey}

/-- The change to another key, without a layer-1 signature. -/
def withKey (op : ChangePubKey) (p : Point) : ChangePubKey :=
  { op with keyX := p.x.toBytes32, keyY := p.y.toBytes32, layer1Sig := none }

/-- A change of key keeps its rules exactly if the key is a point of the curve, the owner made the
layer-1 signature if there is one, and the change has not expired. -/
theorem check_eq_ok_iff :
    op.check context = .ok () ↔
      (∃ key, PublicKey.ofCoordinates op.keyX op.keyY = .ok key) ∧
        (∀ sig, op.layer1Sig = some sig →
          Layer1.recover (Text.utf8 op.message) sig = .ok op.owner) ∧
        Rules.notExpired context op.envelope.expiredAt = .ok () := by
  unfold check
  rw [bind_eq_ok]
  simp only [lift_crypto_eq_ok]
  -- the last step is reached with no signature to check, or past the check of one
  cases op.layer1Sig with
  | none =>
      rw [← lift_eq_ok]
      constructor
      · rintro ⟨key, hkey, hexpiry⟩
        exact ⟨⟨key, hkey⟩, nofun, hexpiry⟩
      · rintro ⟨⟨key, hkey⟩, _, hexpiry⟩
        exact ⟨key, hkey, hexpiry⟩
  | some sig =>
      constructor
      · rintro ⟨key, hkey, h⟩
        obtain ⟨signer, hsigner, h⟩ := bind_eq_ok.mp h
        split at h
        · cases h
        · next howner =>
          obtain rfl := not_not.mp howner
          refine ⟨⟨key, hkey⟩, ?_, lift_eq_ok.mp h⟩
          rintro _ ⟨rfl⟩
          exact lift_crypto_eq_ok.mp hsigner
      · rintro ⟨⟨key, hkey⟩, hsig, hexpiry⟩
        refine ⟨key, hkey, bind_eq_ok.mpr ⟨op.owner, lift_crypto_eq_ok.mpr (hsig sig rfl), ?_⟩⟩
        rw [if_neg (not_not.mpr rfl)]
        exact lift_eq_ok.mpr hexpiry

theorem encodes_withKey (p : Point) (h : ∀ field ∈ op.table, field.Encodes) :
    ∀ field ∈ (op.withKey p).table, field.Encodes := by
  -- the two tables differ in the fields of the coordinates only
  simp only [table, withKey, List.cons_append, List.nil_append, List.forall_mem_cons] at h ⊢
  obtain ⟨hkind, haccount, howner, _, _, hrest⟩ := h
  exact ⟨hkind, haccount, howner, Field.encodes_hash p.x, Field.encodes_hash p.y, hrest⟩

/-- **Any point of the curve may take the place of the key.** -/
theorem validate_withKey {p : Point} (hcurve : p.onCurve = true)
    (h : (Operation.changePubKey op).validate context = .ok ()) :
    (Operation.changePubKey (op.withKey p)).validate context = .ok () := by
  obtain ⟨hcheck, table, htable, hencode⟩ := Operation.validate_eq_ok_iff.mp h
  obtain rfl := Except.ok.inj htable
  obtain ⟨_, _, hexpiry⟩ := check_eq_ok_iff.mp hcheck
  refine Operation.validate_eq_ok_iff.mpr ⟨check_eq_ok_iff.mpr ⟨?_, nofun, hexpiry⟩, _, rfl, ?_⟩
  · exact ⟨⟨p⟩, PublicKey.ofCoordinates_eq_ok_iff.mpr ⟨rfl, rfl, hcurve⟩⟩
  · exact Table.exists_encode_iff.mpr (encodes_withKey p (Table.exists_encode_iff.mp hencode))

end ChangePubKey

/-- **What a valid change of key says about the key.**  Its coordinates are canonical and those of a
point of the curve, and eight times the point lies in the subgroup of prime order.  If that is not
zero, a signature is accepted for two messages only if their challenges are the same; if it is, one
signature is accepted for every message.  Any other point of the curve would be accepted as well. -/
theorem ChangePubKey.exists_point_of_validate (context : Context) (op : ChangePubKey)
    (h : (Operation.changePubKey op).validate context = .ok ()) :
    ∃ p : Point, PublicKey.ofCoordinates op.keyX op.keyY = .ok ⟨p⟩ ∧
      op.keyX = p.x.toBytes32 ∧ op.keyY = p.y.toBytes32 ∧ p.onCurve = true ∧
      p.clearCofactor.inSubgroup = true ∧
      (p.clearCofactor ≠ .zero → ∀ (sig : Signature) (m₁ m₂ : Bytes),
        PublicKey.verify ⟨p⟩ m₁ sig = .ok () → PublicKey.verify ⟨p⟩ m₂ sig = .ok () →
        ∃ r, Point.decompress sig.r = .ok r ∧ challenge r p m₁ = challenge r p m₂) ∧
      (p.clearCofactor = .zero → ∃ sig : Signature, ∀ message : Bytes,
        PublicKey.verify ⟨p⟩ message sig = .ok ()) ∧
      ∀ q : Point, q.onCurve = true →
        (Operation.changePubKey (op.withKey q)).validate context = .ok () := by
  obtain ⟨hcheck, _⟩ := Operation.validate_eq_ok_iff.mp h
  obtain ⟨⟨⟨p⟩, hkey⟩, _⟩ := ChangePubKey.check_eq_ok_iff.mp hcheck
  obtain ⟨hx, hy, hcurve⟩ := PublicKey.ofCoordinates_eq_ok_iff.mp hkey
  obtain ⟨a, rfl⟩ := Point.exists_curvePoint hcurve
  refine ⟨a.toPoint, hkey, hx, hy, hcurve, a.inSubgroup_clearCofactor, ?_, ?_, fun q hq => ?_⟩
  · intro hne sig m₁ m₂ h₁ h₂
    have ha : cofactor • a ≠ 0 := fun h => hne (CurvePoint.clearCofactor_eq_zero_iff.mpr h)
    exact PublicKey.challenge_eq_of_verify ha h₁ h₂
  · intro hzero
    exact ⟨.blank, PublicKey.verify_blank (CurvePoint.clearCofactor_eq_zero_iff.mp hzero)⟩
  · exact ChangePubKey.validate_withKey hq h

/-- A change of an account's key to a point. -/
def changeTo (p : Point) : ChangePubKey :=
  ⟨2, FixedBytes.ofNat 20 1, p.x.toBytes32, p.y.toBytes32, ⟨1, 0, 5000, 9, 3⟩, none⟩

/-- The generator as the new key. -/
theorem ChangePubKey.exists_point_of_validate_generator :
    (Operation.changePubKey (changeTo .generator)).validate ⟨5, .v2⟩ = .ok () ∧
      ∀ (sig : Signature) (m₁ m₂ : Bytes), PublicKey.verify ⟨.generator⟩ m₁ sig = .ok () →
        PublicKey.verify ⟨.generator⟩ m₂ sig = .ok () →
        ∃ r, Point.decompress sig.r = .ok r ∧
          challenge r .generator m₁ = challenge r .generator m₂ := by
  have hvalid : (Operation.changePubKey (changeTo .generator)).validate ⟨5, .v2⟩ = .ok () := by
    decide +kernel
  have hgenerator : PublicKey.ofCoordinates (changeTo .generator).keyX (changeTo .generator).keyY =
      .ok ⟨.generator⟩ :=
    PublicKey.ofCoordinates_eq_ok_iff.mpr ⟨rfl, rfl, CurvePoint.generator.onCurve_toPoint⟩
  obtain ⟨p, hkey, _, _, _, _, hchallenge, _⟩ :=
    ChangePubKey.exists_point_of_validate ⟨5, .v2⟩ (changeTo .generator) hvalid
  obtain rfl := PublicKey.mk.inj (Except.ok.inj (hkey.symm.trans hgenerator))
  refine ⟨hvalid, hchallenge fun hzero => ?_⟩
  exact CurvePoint.cofactor_nsmul_generator_ne_zero (CurvePoint.clearCofactor_eq_zero_iff.mp hzero)

/-- The neutral element and the point of order two, which is not in the subgroup, are accepted as new
keys, and under both one signature is accepted for every message. -/
theorem ChangePubKey.validate_smallOrder :
    (Operation.changePubKey (changeTo .zero)).validate ⟨5, .v2⟩ = .ok () ∧
      (∀ message, PublicKey.verify ⟨.zero⟩ message .blank = .ok ()) ∧
      (Operation.changePubKey (changeTo ⟨0, -1⟩)).validate ⟨5, .v2⟩ = .ok () ∧
      Point.inSubgroup ⟨0, -1⟩ = false ∧
      ∀ message, PublicKey.verify ⟨⟨0, -1⟩⟩ message .blank = .ok () := by
  have hzero : cofactor • (0 : CurvePoint) = 0 := nsmul_zero _
  have hblank₁ := PublicKey.verify_blank hzero
  have hblank₂ := PublicKey.verify_blank CurvePoint.cofactor_nsmul_halfTurn
  rw [CurvePoint.toPoint_zero] at hblank₁
  rw [CurvePoint.toPoint_halfTurn] at hblank₂
  exact ⟨by decide +kernel, hblank₁, by decide +kernel, by decide +kernel, hblank₂⟩

end RollupWallet
