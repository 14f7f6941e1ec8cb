import Mathlib
import RollupWallet.Layer1.Key
import RollupWallet.Proofs.Bytes
import RollupWallet.Proofs.Error
import RollupWallet.Proofs.Curve.Secp256k1.Generator
import RollupWallet.Proofs.Hash.Keccak
import RollupWallet.Proofs.Hash.Sha256

/-!
# A signature of layer 1 leads back to its signer

A signature does not carry the one-time point `R` that it was made with.  It carries `r`, which is the
first coordinate of `R` modulo the order, and a byte from which the rest of `R` is found.  Two things
stand in the way of finding it.

* The first coordinate may be above the order.  It is below twice the order, so one bit of the byte
  says which of the two numbers it is.
* Where `s` is negated because it is above half the order, the signature is one made with `-R`.
  The other bit of the byte is the parity of the second coordinate, and it is flipped with the sign,
  so that the point found is `R` or `-R` as `s` is kept or negated.

With both bits the point found is the one that the signature stands for (`ofX?_commitment`).  In both
cases `s R` is the point of `z + r d`, and so the point recovered is the key's.
-/

namespace RollupWallet.Layer1

open Curve.Secp256k1 GroupPoint

/-! ### Signatures as bytes -/

/-- Bytes write a signature of two scalars and the number of a candidate that recovery looks at. -/
structure Encodes (signature : Bytes) (r s : Scalar) (candidate : ℕ) : Prop where
  r_ne_zero : r ≠ 0
  s_ne_zero : s ≠ 0
  s_low : s.val ≤ order / 2
  candidate_le : candidate ≤ 3
  bytes_eq : signature = Bytes.ofNat 32 r.val ++ Bytes.ofNat 32 s.val ++
    [UInt8.ofNat (recoveryOffset + candidate)]

theorem toNat_ofNat_scalar (a : Scalar) : Bytes.toNat (Bytes.ofNat 32 a.val) = a.val := by
  rw [Bytes.toNat_ofNat, Nat.mod_eq_of_lt (a.isLt.trans (by decide))]

theorem take_scalars (a b : Scalar) (last : Bytes) :
    Bytes.toNat ((Bytes.ofNat 32 a.val ++ Bytes.ofNat 32 b.val ++ last).take 32) = a.val := by
  rw [List.append_assoc, List.take_left' (Bytes.length_ofNat 32 _), toNat_ofNat_scalar]

theorem drop_take_scalars (a b : Scalar) (last : Bytes) :
    Bytes.toNat (((Bytes.ofNat 32 a.val ++ Bytes.ofNat 32 b.val ++ last).drop 32).take 32) =
      b.val := by
  rw [List.append_assoc, List.drop_left' (Bytes.length_ofNat 32 _),
    List.take_left' (Bytes.length_ofNat 32 _), toNat_ofNat_scalar]

theorem drop_scalars (a b : Scalar) (last : Bytes) :
    (Bytes.ofNat 32 a.val ++ Bytes.ofNat 32 b.val ++ last).drop 64 = last :=
  List.drop_left' (by simp)

theorem toNat_lastByte {candidate : ℕ} (h : candidate ≤ 3) :
    (UInt8.ofNat (recoveryOffset + candidate)).toNat = recoveryOffset + candidate := by
  rw [UInt8.toNat_ofNat', Nat.mod_eq_of_lt]
  unfold recoveryOffset
  omega

/-- What is recovered from two scalars and a last byte: the last byte is looked at first, then whether
`s` is low, and only then is a point looked for. -/
theorem recover_scalars {r s : Scalar} (hr : r ≠ 0) (hs : s ≠ 0) (last : UInt8) (message : Bytes) :
    recover message (Bytes.ofNat 32 r.val ++ Bytes.ofNat 32 s.val ++ [last]) =
      if last.toNat < recoveryOffset ∨ recoveryOffset + 3 < last.toNat then .error .invalidSignature
      else if order / 2 < s.val then .error .verificationFailed
      else match recoverPoint? (personalDigest message) r s (last.toNat - recoveryOffset) with
        | some point => .ok (addressOf point)
        | none => .error .verificationFailed := by
  have hr : r.val ≠ 0 := Fin.val_ne_zero_iff.mpr hr
  have hs : s.val ≠ 0 := Fin.val_ne_zero_iff.mpr hs
  have hrlt := r.isLt
  have hslt := s.isLt
  have hlength : (Bytes.ofNat 32 r.val ++ Bytes.ofNat 32 s.val ++ [last]).length = 65 := by simp
  unfold recover
  simp only [hlength, take_scalars, drop_take_scalars, drop_scalars, Bytes.toNat_singleton, ne_eq,
    not_true_eq_false, if_false, Fin.ofNat_val_eq_self]
  rw [if_neg (by omega)]
  rfl

namespace Encodes

variable {signature : Bytes} {r s : Scalar} {candidate : ℕ}

theorem length_eq (h : Encodes signature r s candidate) : signature.length = 65 := by
  simp [h.bytes_eq]

theorem take_eq (h : Encodes signature r s candidate) :
    Bytes.toNat (signature.take 32) = r.val := by
  rw [h.bytes_eq, take_scalars]

theorem drop_take_eq (h : Encodes signature r s candidate) :
    Bytes.toNat ((signature.drop 32).take 32) = s.val := by
  rw [h.bytes_eq, drop_take_scalars]

theorem last_eq (h : Encodes signature r s candidate) :
    signature.drop 64 = [UInt8.ofNat (recoveryOffset + candidate)] := by
  rw [h.bytes_eq, drop_scalars]

theorem toNat_last (h : Encodes signature r s candidate) :
    (UInt8.ofNat (recoveryOffset + candidate)).toNat = recoveryOffset + candidate :=
  toNat_lastByte h.candidate_le

/-- What is recovered from such bytes is the address of the point, if there is one. -/
theorem recover_eq (h : Encodes signature r s candidate) (message : Bytes) :
    recover message signature =
      match recoverPoint? (personalDigest message) r s candidate with
      | some point => .ok (addressOf point)
      | none => .error .verificationFailed := by
  have hle := h.candidate_le
  rw [h.bytes_eq, recover_scalars h.r_ne_zero h.s_ne_zero, h.toNat_last, if_neg (by omega),
    if_neg (not_lt.mpr h.s_low), Nat.add_sub_cancel_left]

/-- The numbers are determined by the bytes. -/
theorem unique {r' s' : Scalar} {candidate' : ℕ} (h : Encodes signature r s candidate)
    (h' : Encodes signature r' s' candidate') : r = r' ∧ s = s' ∧ candidate = candidate' := by
  have hlast := List.cons.inj (h.last_eq.symm.trans h'.last_eq)
  have hcandidate := congrArg UInt8.toNat hlast.1
  rw [h.toNat_last, h'.toNat_last] at hcandidate
  exact ⟨Fin.ext (h.take_eq.symm.trans h'.take_eq),
    Fin.ext (h.drop_take_eq.symm.trans h'.drop_take_eq), Nat.add_left_cancel hcandidate⟩

end Encodes

theorem eq_append_of_length {signature : Bytes} (h : signature.length = 65) :
    ∃ byte, signature.drop 64 = [byte] ∧
      signature = Bytes.ofNat 32 (Bytes.toNat (signature.take 32)) ++
        Bytes.ofNat 32 (Bytes.toNat ((signature.drop 32).take 32)) ++ [byte] := by
  obtain ⟨byte, hbyte⟩ : ∃ byte, signature.drop 64 = [byte] :=
    List.length_eq_one_iff.mp (by rw [List.length_drop, h])
  refine ⟨byte, hbyte, ?_⟩
  rw [Bytes.ofNat_toNat_of_length (by simp [h]), Bytes.ofNat_toNat_of_length (by simp [h]), ← hbyte,
    List.append_assoc, ← List.drop_drop (i := 32) (j := 32), List.take_append_drop,
    List.take_append_drop]

/-- An address is recovered from such bytes only. -/
theorem exists_encodes_of_recover {message signature : Bytes} {address : Address}
    (h : recover message signature = .ok address) :
    ∃ r s candidate point, Encodes signature r s candidate ∧
      recoverPoint? (personalDigest message) r s candidate = some point ∧
      addressOf point = address := by
  unfold recover at h
  obtain ⟨hlength, h⟩ := guard_eq_ok.mp h
  obtain ⟨hscalars, h⟩ := guard_eq_ok.mp h
  obtain ⟨hlast, h⟩ := guard_eq_ok.mp h
  obtain ⟨hlow, h⟩ := guard_eq_ok.mp h
  push Not at hlength hscalars hlast hlow
  obtain ⟨hr, hrlt, hs, hslt⟩ := hscalars
  obtain ⟨byte, hbyte, hbytes⟩ := eq_append_of_length hlength
  rw [hbyte, Bytes.toNat_singleton] at hlast
  simp only [hbyte, Bytes.toNat_singleton] at h
  obtain ⟨r, hrval⟩ : ∃ r : Scalar, r.val = Bytes.toNat (signature.take 32) := ⟨⟨_, hrlt⟩, rfl⟩
  obtain ⟨s, hsval⟩ : ∃ s : Scalar, s.val = Bytes.toNat ((signature.drop 32).take 32) :=
    ⟨⟨_, hslt⟩, rfl⟩
  rw [← hrval] at hr hbytes h
  rw [← hsval] at hs hlow hbytes h
  simp only [Fin.ofNat_val_eq_self] at h
  cases hpoint : recoverPoint? (personalDigest message) r s (byte.toNat - recoveryOffset) with
  | none =>
      rw [hpoint] at h
      cases h
  | some point =>
      rw [hpoint] at h
      have hwrite : UInt8.ofNat (recoveryOffset + (byte.toNat - recoveryOffset)) = byte := by
        rw [Nat.add_sub_cancel' hlast.1, UInt8.ofNat_toNat]
      refine ⟨r, s, byte.toNat - recoveryOffset, point, ?_, hpoint, Except.ok.inj h⟩
      exact {
        r_ne_zero := Fin.val_ne_zero_iff.mp hr
        s_ne_zero := Fin.val_ne_zero_iff.mp hs
        s_low := hlow
        candidate_le := Nat.sub_le_iff_le_add'.mpr hlast.2
        bytes_eq := by rw [hwrite]; exact hbytes }

/-! ### The point that is recovered -/

/-- The point recovered is a combination of the generator and the one-time point. -/
theorem recoverPoint?_eq {digest : Bytes32} {r s : Scalar} {candidate : ℕ} {commitment : GroupPoint}
    (h : Point.ofX? (r.val + if 2 ≤ candidate then order else 0) (candidate % 2 = 1) =
      some commitment.toPoint) :
    recoverPoint? digest r s candidate =
      if multiple (-(Arith.inv r * Fin.ofNat order digest.toNat)) +
          (Arith.inv r * s).val • commitment = 0 then none
      else some (multiple (-(Arith.inv r * Fin.ofNat order digest.toNat)) +
          (Arith.inv r * s).val • commitment).toPoint := by
  have hzero : ∀ p : GroupPoint, p.toPoint = .zero ↔ p = 0 := fun p =>
    ⟨fun hp => toPoint_injective hp, fun hp => hp ▸ toPoint_zero⟩
  rw [recoverPoint?, h]
  simp only [Option.bind_eq_bind, Option.bind_some, mul_generator_eq_multiple, toPoint_mul,
    toPoint_add, hzero]

/-- What is recovered is no neutral element, and it is found from a point with the coordinate. -/
theorem exists_commitment_of_recoverPoint? {digest : Bytes32} {r s : Scalar} {candidate : ℕ}
    {point : Point} (h : recoverPoint? digest r s candidate = some point) :
    ∃ commitment : GroupPoint,
      Point.ofX? (r.val + if 2 ≤ candidate then order else 0) (candidate % 2 = 1) =
        some commitment.toPoint ∧
      point = (multiple (-(Arith.inv r * Fin.ofNat order digest.toNat)) +
        (Arith.inv r * s).val • commitment).toPoint ∧
      point ≠ .zero := by
  cases hx : Point.ofX? (r.val + if 2 ≤ candidate then order else 0) (candidate % 2 = 1) with
  | none =>
      rw [recoverPoint?, hx] at h
      cases h
  | some p =>
      obtain ⟨commitment, rfl⟩ := Point.exists_of_ofX? hx
      rw [recoverPoint?_eq hx] at h
      split at h
      · cases h
      · next hne =>
        obtain rfl := Option.some.inj h
        exact ⟨commitment, rfl, rfl, fun h0 => hne (toPoint_injective h0)⟩

/-- **The recovery equation.**  If `s k` is `z + r d`, then `r`, `s` and the point of `k` lead to the
point of `d`. -/
theorem recoverPoint?_of_equation {digest : Bytes32} {r s d k : Scalar} {candidate : ℕ}
    (hr : r ≠ 0) (hd : d ≠ 0) (hequation : s * k = Fin.ofNat order digest.toNat + r * d)
    (h : Point.ofX? (r.val + if 2 ≤ candidate then order else 0) (candidate % 2 = 1) =
      some (multiple k).toPoint) :
    recoverPoint? digest r s candidate = some (multiple d).toPoint := by
  have hcancel : r * Arith.inv r = 1 := Arith.mul_inv_cancel prime_order hr
  have hpoint : multiple (-(Arith.inv r * Fin.ofNat order digest.toNat)) +
      (Arith.inv r * s).val • multiple k = multiple d := by
    rw [nsmul_multiple, ← multiple_add]
    generalize Fin.ofNat order digest.toNat = z at hequation
    generalize Arith.inv r = rInv at hcancel
    congr 1
    linear_combination rInv * hequation + d * hcancel
  rw [recoverPoint?_eq h, hpoint, if_neg (fun h0 => hd (multiple_eq_zero_iff.mp h0))]

/-! ### Signing -/

/-- What is drawn lies between zero and the order. -/
theorem NonceState.draw?_bounds {tries k : ℕ} {state : NonceState}
    (h : state.draw? tries = some k) : 0 < k ∧ k < order := by
  induction tries generalizing state with
  | zero => cases h
  | succ tries ih =>
      rw [draw?] at h
      split at h
      · next hbounds =>
        obtain rfl := Option.some.inj h
        exact hbounds
      · exact ih h

theorem val_neg_of_ne_zero {a : Scalar} (ha : a ≠ 0) : (-a).val = order - a.val := by
  have hpos : a.val ≠ 0 := Fin.val_ne_zero_iff.mpr ha
  have hlt := a.isLt
  rw [Fin.val_neg', Nat.mod_eq_of_lt (by omega)]

/-- Of a scalar and its negation one is at most half the order. -/
theorem negated_low {s : Scalar} (hs : s ≠ 0) :
    (if decide (order / 2 < s.val) then -s else s).val ≤ order / 2 := by
  by_cases hhigh : order / 2 < s.val
  · have hodd : order % 2 = 1 := by decide
    have hlt := s.isLt
    rw [if_pos (decide_eq_true hhigh), val_neg_of_ne_zero hs]
    omega
  · rw [if_neg (by rwa [decide_eq_true_eq])]
    exact not_lt.mp hhigh

theorem negated_ne_zero {s : Scalar} (hs : s ≠ 0) (high : Bool) :
    (if high then -s else s) ≠ 0 := by
  cases high with
  | false => exact hs
  | true => exact neg_ne_zero.mpr hs

theorem negated_mul_negated (s k : Scalar) (high : Bool) :
    (if high then -s else s) * (if high then -k else k) = s * k := by
  cases high with
  | false => rfl
  | true => exact neg_mul_neg s k

theorem inv_mul_mul_cancel {k : Scalar} (hk : k ≠ 0) (a : Scalar) : Arith.inv k * a * k = a := by
  rw [mul_right_comm, mul_comm (Arith.inv k), Arith.mul_inv_cancel prime_order hk, one_mul]

/-- **The one-time point is found.**  It is the point of `k` if `s` was kept and that of `-k` if `s`
was negated. -/
theorem ofX?_commitment {k : Scalar} {x y : Coordinate}
    (hpoint : (multiple k).toPoint = .affine x y) (high : Bool) {candidate : ℕ}
    (hcandidate : candidate = (if decide (y.val % 2 = 1) != high then 1 else 0) +
      if order ≤ x.val then 2 else 0) :
    Point.ofX? ((Fin.ofNat order x.val).val + if 2 ≤ candidate then order else 0)
      (candidate % 2 = 1) = some (multiple (if high then -k else k)).toPoint := by
  have hcoordinate : (Fin.ofNat order x.val).val + (if 2 ≤ candidate then order else 0) = x.val := by
    have hlt : x.val < 2 * order := x.isLt.trans (by decide)
    rw [Fin.val_ofNat]
    by_cases hx : order ≤ x.val
    · have hcandidate : 2 ≤ candidate := by rw [hcandidate, if_pos hx]; omega
      rw [if_pos hcandidate, Nat.mod_eq_sub_mod hx, Nat.mod_eq_of_lt (by omega)]
      omega
    · have hcandidate : ¬ 2 ≤ candidate := by rw [hcandidate, if_neg hx]; split <;> omega
      rw [if_neg hcandidate, Nat.mod_eq_of_lt (not_le.mp hx), add_zero]
  have hparity : decide (candidate % 2 = 1) = (decide (y.val % 2 = 1) != high) := by
    rw [hcandidate]
    generalize (decide (y.val % 2 = 1) != high) = flipped
    by_cases hx : order ≤ x.val <;> cases flipped <;> simp [hx]
  rw [hcoordinate, hparity, Point.ofX?_val (onCurve_of_affine hpoint)]
  cases high with
  | false => simp [hpoint]
  | true =>
      rw [if_pos rfl, multiple_neg, toPoint_neg_of_affine hpoint]
      by_cases hy : y.val % 2 = 1 <;> simp [hy]

/-- **A signature is made so that its signer is recovered.** -/
theorem exists_encodes_of_signWith? {d k : Scalar} {digest : Bytes32} {sig : FixedBytes 65}
    (hd : d ≠ 0) (hk : k ≠ 0) (h : signWith? d digest k.val = some sig) :
    ∃ r s candidate, Encodes sig.bytes r s candidate ∧
      recoverPoint? digest r s candidate = some (multiple d).toPoint := by
  unfold signWith? at h
  rw [mul_generator_eq_multiple] at h
  cases hpoint : (multiple k).toPoint with
  | zero =>
      rw [hpoint] at h
      cases h
  | affine x y =>
      rw [hpoint] at h
      simp only [Fin.ofNat_val_eq_self] at h
      split at h
      · cases h
      · next hne =>
        obtain ⟨hr, hs⟩ := not_or.mp hne
        obtain rfl := Option.some.inj h
        refine ⟨_, _, _, ⟨hr, negated_ne_zero hs _, negated_low hs, ?_, rfl⟩,
          recoverPoint?_of_equation hr hd ?_ (ofX?_commitment hpoint _ rfl)⟩
        · split <;> split <;> decide
        · rw [negated_mul_negated, inv_mul_mul_cancel hk]

/-- With a one-time secret whose point and numbers are not zero there is a signature. -/
theorem exists_signWith? {d k : Scalar} {digest : Bytes32} {x y : Coordinate}
    (hpoint : (multiple k).toPoint = .affine x y) (hr : Fin.ofNat order x.val ≠ 0)
    (hs : Arith.inv k * (Fin.ofNat order digest.toNat + Fin.ofNat order x.val * d) ≠ 0) :
    ∃ sig, signWith? d digest k.val = some sig := by
  unfold signWith?
  rw [mul_generator_eq_multiple, hpoint]
  simp only [Fin.ofNat_val_eq_self]
  rw [if_neg (not_or.mpr ⟨hr, hs⟩)]
  exact ⟨_, rfl⟩

/-! ### Keys -/

namespace Key

/-- The secret of a key is not zero, and its address is that of its point. -/
structure Consistent (key : Key) : Prop where
  secret_ne_zero : key.secret ≠ 0
  address_eq : key.address = addressOf (multiple key.secret).toPoint

theorem consistent_ofSecret? {secret : ℕ} {key : Key} (h : ofSecret? secret = some key) :
    key.Consistent := by
  unfold ofSecret? at h
  split at h
  · next hbounds =>
    obtain rfl := Option.some.inj h
    refine ⟨Fin.val_ne_zero_iff.mp hbounds.1.ne', ?_⟩
    rw [← mul_generator_eq_multiple]
  · cases h

theorem consistent_ofHex {text : String} {key : Key} (h : ofHex text = .ok key) :
    key.Consistent := by
  unfold ofHex at h
  split at h
  · cases h
  · split at h
    · split at h
      · next hsecret =>
        obtain rfl := Except.ok.inj h
        exact consistent_ofSecret? hsecret
      · cases h
    · cases h

variable {key : Key} {message : Bytes} {sig : FixedBytes 65}

/-- A signature is made with the secret that is drawn, which lies between zero and the order. -/
theorem sign_eq_ok_iff : key.sign message = .ok sig ↔
    ∃ k : Scalar, k ≠ 0 ∧
      (NonceState.seed (FixedBytes.ofNat 32 key.secret.val) (personalDigest message)).draw?
        maxDraws = some k.val ∧
      signWith? key.secret (personalDigest message) k.val = some sig := by
  simp only [sign]
  generalize hdraw : (NonceState.seed (FixedBytes.ofNat 32 key.secret.val)
    (personalDigest message)).draw? maxDraws = drawn
  cases drawn with
  | none => exact iff_of_false nofun fun ⟨_, _, h, _⟩ => nomatch h
  | some k =>
      obtain ⟨hpos, hlt⟩ := NonceState.draw?_bounds hdraw
      rw [Option.bind_some]
      constructor
      · intro h
        refine ⟨⟨k, hlt⟩, Fin.val_ne_zero_iff.mp hpos.ne', rfl, ?_⟩
        cases hsig : signWith? key.secret (personalDigest message) k with
        | none =>
            rw [hsig] at h
            cases h
        | some result =>
            rw [hsig] at h
            exact congrArg some (Except.ok.inj h)
      · rintro ⟨_, _, heq, hsig⟩
        obtain rfl := Option.some.inj heq
        rw [hsig]
        rfl

theorem Consistent.exists_encodes_of_sign (hkey : key.Consistent)
    (h : key.sign message = .ok sig) :
    ∃ r s candidate, Encodes sig.bytes r s candidate ∧
      recoverPoint? (personalDigest message) r s candidate =
        some (multiple key.secret).toPoint := by
  obtain ⟨k, hk, -, hsig⟩ := sign_eq_ok_iff.mp h
  exact exists_encodes_of_signWith? hkey.secret_ne_zero hk hsig

theorem Consistent.recover_sign (hkey : key.Consistent) (h : key.sign message = .ok sig) :
    recover message sig.bytes = .ok key.address := by
  obtain ⟨r, s, candidate, hencodes, hpoint⟩ := hkey.exists_encodes_of_sign h
  rw [hencodes.recover_eq, hpoint, hkey.address_eq]

end Key

/-- **A signature leads back to its signer.**  A signature that a key makes has a low `s`, its last
byte is from 27 to 30, and the address recovered from it is the key's. -/
theorem recover_personalSign (text : String) (key : Key) (message : Bytes) (sig : FixedBytes 65)
    (hkey : Key.ofHex text = .ok key) (hsig : key.sign message = .ok sig) :
    Bytes.toNat ((sig.bytes.drop 32).take 32) ≤ order / 2 ∧
      (∃ last, sig.bytes.getLast? = some last ∧ 27 ≤ last.toNat ∧ last.toNat ≤ 30) ∧
      recover message sig.bytes = .ok key.address := by
  have hconsistent := Key.consistent_ofHex hkey
  obtain ⟨r, s, candidate, hencodes, -⟩ := hconsistent.exists_encodes_of_sign hsig
  have hcandidate := hencodes.candidate_le
  refine ⟨hencodes.drop_take_eq ▸ hencodes.s_low, ?_, hconsistent.recover_sign hsig⟩
  refine ⟨UInt8.ofNat (recoveryOffset + candidate), ?_, ?_⟩
  · rw [hencodes.bytes_eq, List.getLast?_concat]
  · rw [hencodes.toNat_last, recoveryOffset]
    omega

/-! ### A signature that is negated -/

/-- The key of the number one, whose point is the generator. -/
def keyOne : Key := ⟨1, addressOf (Point.generator.mul 1)⟩

theorem ofSecret?_one : Key.ofSecret? 1 = some keyOne := dif_pos (by decide)

theorem address_keyOne_ne : keyOne.address ≠ FixedBytes.ofNat 20 1 := by
  intro h
  have hbytes := congrArg FixedBytes.bytes h
  have hpoint : Point.generator.mul 1 = Point.generator := by decide +kernel
  rw [keyOne, hpoint] at hbytes
  simp only [Point.generator, addressOf] at hbytes
  rw [Hash.bytes_keccak256] at hbytes
  revert hbytes
  decide +kernel

/-- A text that this key signs: that of a change to the generator as the new key. -/
def sampleText : String :=
  "Register zkBNB Account\n\n" ++
    "pubkeyX: 0x1561ff836ce19d358a4eb7a4c199e94c377c749ae6f2a277f1f9195afe553f9f\n" ++
    "pubkeyY: 0x25797203f7a0b24925572e1cd16bf9edfce0051fb9e133774b3c257a872d7d8b\n" ++
    "nonce: 3\naccount index: 2\n\nOnly sign this message for a trusted client!"

def sampleDigest : Bytes32 := FixedBytes.ofNat 32
  23558136667942191136159077221667068735151543109263109378647360891044181431381

theorem personalDigest_sampleText : personalDigest (Text.utf8 sampleText) = sampleDigest := by
  apply FixedBytes.ext
  rw [personalDigest, Hash.bytes_keccak256]
  decide +kernel

/-- The one-time secret that the key draws for this text. -/
def sampleNonce : Scalar :=
  69893922089465598811168508352978353368982156749749592504049816228462777057815

theorem draw?_sampleDigest :
    (NonceState.seed (FixedBytes.ofNat 32 1) sampleDigest).draw? maxDraws =
      some sampleNonce.val := by
  rw [maxDraws, NonceState.draw?]
  simp only [NonceState.seed, NonceState.mix, NonceState.next, Hash.hmacSha256_eq]
  decide +kernel

theorem toPoint_multiple_sampleNonce : (multiple sampleNonce).toPoint = .affine
    69850208707334153168776551917668145454561177624807225259543755261973932813566
    16843614623431205623252137546379533068921199572333738156792537871083958576140 := by
  rw [multiple, ← toPoint_mulJacobian, toPoint_generator]
  decide +kernel

theorem exists_signWith?_sample : ∃ sig, signWith? 1 sampleDigest sampleNonce.val = some sig :=
  exists_signWith? toPoint_multiple_sampleNonce (by decide +kernel) (by decide +kernel)

theorem exists_sign_sampleText : ∃ sig, keyOne.sign (Text.utf8 sampleText) = .ok sig := by
  obtain ⟨sig, hsig⟩ := exists_signWith?_sample
  refine ⟨sig, Key.sign_eq_ok_iff.mpr ⟨sampleNonce, by decide, ?_, ?_⟩⟩
  · rw [personalDigest_sampleText]
    exact draw?_sampleDigest
  · rw [personalDigest_sampleText]
    exact hsig

/-- The key of the number one, written with 24 bytes, and a signature that was negated. -/
theorem recover_personalSign_negated : ∃ key sig,
    Key.ofHex "0x000000000000000000000000000000000000000000000001" = .ok key ∧
      key.sign (Text.utf8 sampleText) = .ok sig ∧
      Bytes.toNat ((sig.bytes.drop 32).take 32) ≤ order / 2 ∧
      (∃ last, sig.bytes.getLast? = some last ∧ 27 ≤ last.toNat ∧ last.toNat ≤ 30) ∧
      recover (Text.utf8 sampleText) sig.bytes = .ok key.address := by
  have hdecode : Text.Hex.decode (Text.Hex.stripMark
      (Text.utf8 "0x000000000000000000000000000000000000000000000001")) =
      .ok (Bytes.ofNat 24 1) := by
    decide +kernel
  have hone : Bytes.toNat (Bytes.ofNat 24 1) = 1 := by decide
  have hkey : Key.ofHex "0x000000000000000000000000000000000000000000000001" =
      .ok keyOne := by
    rw [Key.ofHex, hdecode]
    simp only [Bytes.length_ofNat, hone, ofSecret?_one]
    rfl
  obtain ⟨sig, hsig⟩ := exists_sign_sampleText
  exact ⟨_, sig, hkey, hsig, recover_personalSign _ _ _ sig hkey hsig⟩

end RollupWallet.Layer1
