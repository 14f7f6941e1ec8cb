import Mathlib
import RollupWallet.Client.Api
import RollupWallet.Proofs.Error
import RollupWallet.Proofs.Tx.NewKey

/-!
# Public keys are points of the curve

A public key holds any pair of coordinates.  That the pair lies on the curve is kept by the ways in
which a key comes about (`PublicKey.Arises`): coordinates and compressed forms are held to the
equation when they are read, the key in an account is a compressed form, and the key of a seed is a
multiple of the generator, which the group of the curve does not leave.

The converse holds as well: a point of the curve is read from its compressed form.  So the keys that
arise are the points of the curve (`PublicKey.arises_iff`), small orders and all, and what is to be
shown of them is shown of points.
-/

namespace RollupWallet

open Curve

namespace Eddsa

/-- The key of a consistent secret key is a point of the curve. -/
theorem SecretKey.Consistent.onCurve {key : SecretKey} (h : key.Consistent) :
    key.publicKey.point.onCurve = true := by
  rw [h]
  exact CurvePoint.onCurve_toPoint _

namespace PublicKey

variable {key : PublicKey} {x y word : Bytes32}

theorem ofCompressed_eq_ok_iff :
    ofCompressed word = .ok key ↔ Point.decompress word = .ok key.point := by
  unfold ofCompressed
  cases Point.decompress word with
  | error fault => exact ⟨nofun, nofun⟩
  | ok point =>
      constructor
      · intro h
        rw [← Except.ok.inj h]
      · intro h
        rw [Except.ok.inj h]

/-! ### Points of the curve are read and checked -/

theorem ofCompressed_compressed (h : key.point.onCurve = true) :
    ofCompressed key.compressed = .ok key := by
  obtain ⟨p, hp⟩ := Point.exists_curvePoint h
  rw [ofCompressed_eq_ok_iff, compressed, ← hp]
  exact p.decompress_compress

theorem ofCoordinates_x_y (h : key.point.onCurve = true) : ofCoordinates key.x key.y = .ok key :=
  ofCoordinates_eq_ok_iff.mpr ⟨rfl, rfl, h⟩

/-- Checking a signature never finds fault with a point of the curve. -/
theorem verify_ne_invalidPublicKey (h : key.point.onCurve = true) (message : Bytes)
    (sig : Signature) : key.verify message sig ≠ .error .invalidPublicKey := by
  intro hverify
  cases hread : Point.decompress sig.r with
  | error fault =>
      rw [verify_of_unread h hread] at hverify
      cases hverify
  | ok r =>
      rcases Nat.lt_or_ge sig.s.toNat subgroupOrder with hs | hs
      · rw [verify_eq h hread hs] at hverify
        split at hverify
        · cases hverify
        · cases hverify
      · rw [verify_of_large h hread hs] at hverify
        cases hverify

/-! ### Where keys come from -/

/-- The ways in which a public key comes about: from its coordinates, from its compressed form, as
the key of a seed, and as the key that an account carries. -/
inductive Arises : PublicKey → Prop where
  | ofCoordinates {x y : Bytes32} {key : PublicKey}
      (h : PublicKey.ofCoordinates x y = .ok key) : Arises key
  | ofCompressed {word : Bytes32} {key : PublicKey}
      (h : PublicKey.ofCompressed word = .ok key) : Arises key
  | ofSeed {seed : String} {secret : SecretKey}
      (h : SecretKey.ofSeed seed = .ok secret) : Arises secret.publicKey
  | ofAccount {account : Account} {key : PublicKey} (h : account.key = .ok key) : Arises key

theorem onCurve_of_ofCompressed (h : ofCompressed word = .ok key) : key.point.onCurve = true :=
  (Point.ReadsAs.of_decompress (ofCompressed_eq_ok_iff.mp h)).onCurve

theorem onCurve_of_ofSeed {seed : String} {secret : SecretKey}
    (h : SecretKey.ofSeed seed = .ok secret) : secret.publicKey.point.onCurve = true := by
  have hseed : seed ≠ "" := by
    rintro rfl
    cases h
  obtain ⟨secret', hsecret', hconsistent⟩ := SecretKey.exists_ofSeed_eq_ok hseed
  rw [Except.ok.inj (h.symm.trans hsecret')]
  exact hconsistent.onCurve

/-- The key of an account is read from a compressed form. -/
theorem exists_ofCompressed_of_account {account : Account} (h : account.key = .ok key) :
    ∃ word, ofCompressed word = .ok key := by
  unfold Account.key at h
  split at h
  · cases h
  · split at h
    · cases h
    · next word _ => exact ⟨word, lift_crypto_eq_ok.mp h⟩

/-- **The keys that arise are the points of the curve.** -/
theorem arises_iff : Arises key ↔ key.point.onCurve = true := by
  constructor
  · intro h
    cases h with
    | ofCoordinates h => exact (ofCoordinates_eq_ok_iff.mp h).2.2
    | ofCompressed h => exact onCurve_of_ofCompressed h
    | ofSeed h => exact onCurve_of_ofSeed h
    | ofAccount h =>
        obtain ⟨word, hword⟩ := exists_ofCompressed_of_account h
        exact onCurve_of_ofCompressed hword
  · intro h
    exact .ofCompressed (ofCompressed_compressed h)

/-- **Every key that arises is a point of the curve**, and every seed with a character has one.  No
signature is refused on account of the key, and the key is read back from its compressed form and
from its coordinates. -/
theorem arising_keys :
    (∀ seed, seed ≠ "" →
        ∃ secret, SecretKey.ofSeed seed = .ok secret ∧ Arises secret.publicKey) ∧
      ∀ key, Arises key →
        key.point.onCurve = true ∧
          (∀ message sig, key.verify message sig ≠ .error .invalidPublicKey) ∧
          PublicKey.ofCompressed key.compressed = .ok key ∧
          PublicKey.ofCoordinates key.x key.y = .ok key := by
  refine ⟨fun seed hseed => ?_, fun key h => ?_⟩
  · obtain ⟨secret, hsecret, -⟩ := SecretKey.exists_ofSeed_eq_ok hseed
    exact ⟨secret, hsecret, .ofSeed hsecret⟩
  · have hcurve := arises_iff.mp h
    exact ⟨hcurve, verify_ne_invalidPublicKey hcurve, ofCompressed_compressed hcurve,
      ofCoordinates_x_y hcurve⟩

/-- A seed of one letter; and the account whose key is a point of order eight, which is not in the
subgroup. -/
theorem arising_keys_torsion :
    let key : PublicKey := ⟨CurvePoint.torsion.toPoint⟩
    let account : Account := ⟨7, "walt.zkbnb", "0x" ++ key.compressed.hex, "", 0⟩
    "k" ≠ "" ∧ (∃ secret, SecretKey.ofSeed "k" = .ok secret ∧ Arises secret.publicKey) ∧
      key.point.inSubgroup = false ∧ account.key = .ok key ∧
      key.verify [] .blank ≠ .error .invalidPublicKey ∧
      PublicKey.ofCompressed key.compressed = .ok key ∧
      PublicKey.ofCoordinates key.x key.y = .ok key := by
  intro key account
  have hkey : account.key = .ok key := by decide +kernel
  obtain ⟨-, hverify, hcompressed, hcoordinates⟩ := arising_keys.2 key (.ofAccount hkey)
  exact ⟨by decide, arising_keys.1 "k" (by decide), by decide +kernel, hkey, hverify [] .blank,
    hcompressed, hcoordinates⟩

end PublicKey

end Eddsa

end RollupWallet
