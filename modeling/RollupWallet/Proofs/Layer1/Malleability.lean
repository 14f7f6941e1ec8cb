import Mathlib
import RollupWallet.Proofs.Curve.Secp256k1.Order
import RollupWallet.Proofs.Layer1.Separation
import RollupWallet.Proofs.Tx.NewKey

/-!
# A layer-1 signature has one form

The equation of recovery holds for two signatures at once: where `r` and `s` lead to a point, `r` and
`-s` lead to it as well, with the other candidate (`recoverPoint?_neg`).  That takes every point to be
a multiple of the generator, since the one-time point is only known by its coordinate.  So nothing in
the arithmetic tells a signature from its twin, and anyone who sees the one can write the other.

What tells them apart is that `s` has to be low.  The order is odd, so the negation of a low scalar
that is not zero is high (`high_neg`), and recovery looks for a point only after it has refused every
high `s` (`recover_of_high`).  The message does not matter for that, and the last byte only for which
fault is reported.  Nothing else refuses a twin: with one of the last bytes it stands for the same
point as the signature (`exists_signer?_twin`).
-/

namespace RollupWallet.Layer1

open Curve.Secp256k1 GroupPoint

/-! ### The twin in the equation -/

/-- With the other parity the opposite point is found. -/
theorem ofX?_not {x : ℕ} {odd : Bool} {commitment : GroupPoint}
    (h : Point.ofX? x odd = some commitment.toPoint) :
    Point.ofX? x (!odd) = some (-commitment).toPoint := by
  unfold Point.ofX? at h ⊢
  split at h
  · next hx =>
    simp only at h ⊢
    split at h
    · next hroot =>
      have hpoint := (Option.some.inj h).symm
      rw [dif_pos hx, if_pos hroot, toPoint_neg_of_affine hpoint]
      -- the root is the same for both parities, and the choice between its signs is turned round
      generalize Arith.pow _ _ = y
      by_cases hy : y.val % 2 = 1 <;> cases odd <;> simp [hy]
    · cases h
  · cases h

/-- The opposite point by the opposite scalar. -/
theorem nsmul_neg_neg (a b : Scalar) (p : GroupPoint) :
    (a * -b).val • -p = (a * b).val • p := by
  obtain ⟨k, rfl⟩ := exists_multiple p
  rw [← multiple_neg, nsmul_multiple, nsmul_multiple, mul_neg, mul_neg, neg_mul, neg_neg]

/-- **The twin stands for the same point.**  If `r` and `s` lead to a point with a candidate, then `r`
and `-s` lead to it with the candidate of the other parity. -/
theorem recoverPoint?_neg {digest : Bytes32} {r s : Scalar} {candidate other : ℕ} {point : Point}
    (hparity : other % 2 ≠ candidate % 2) (hover : 2 ≤ other ↔ 2 ≤ candidate)
    (h : recoverPoint? digest r s candidate = some point) :
    recoverPoint? digest r (-s) other = some point := by
  obtain ⟨commitment, hx, hpoint, hne⟩ := exists_commitment_of_recoverPoint? h
  have hflip : decide (other % 2 = 1) = !decide (candidate % 2 = 1) := by
    rw [← decide_not, decide_eq_decide]
    omega
  have hopposite : Point.ofX? (r.val + if 2 ≤ other then order else 0) (other % 2 = 1) =
      some (-commitment).toPoint := by
    simp only [hover, hflip]
    exact ofX?_not hx
  rw [recoverPoint?_eq hopposite, nsmul_neg_neg, hpoint,
    if_neg fun h0 => hne (hpoint.trans (congrArg toPoint h0))]

/-! ### The twin as bytes -/

/-- The signature with `s` taken from the order, and with any last byte. -/
def twin (signature : Bytes) (last : UInt8) : Bytes :=
  signature.take 32 ++ Bytes.ofNat 32 (order - Bytes.toNat ((signature.drop 32).take 32)) ++ [last]

/-- The fault that a high `s` is reported with: the last byte is looked at before it. -/
def highFault (last : UInt8) : CryptoError :=
  if 27 ≤ last.toNat ∧ last.toNat ≤ 30 then .verificationFailed else .invalidSignature

/-- A high `s` is refused, whatever the message is and whatever the last byte says. -/
theorem recover_of_high {r s : Scalar} (hr : r ≠ 0) (hs : order / 2 < s.val) (last : UInt8)
    (message : Bytes) :
    recover message (Bytes.ofNat 32 r.val ++ Bytes.ofNat 32 s.val ++ [last]) =
      .error (highFault last) := by
  have hne : s ≠ 0 := Fin.val_ne_zero_iff.mp (by omega)
  rw [recover_scalars hr hne, if_pos hs, highFault]
  by_cases hlast : 27 ≤ last.toNat ∧ last.toNat ≤ 30
  · rw [if_neg (by unfold recoveryOffset; omega), if_pos hlast]
  · rw [if_pos (by unfold recoveryOffset; omega), if_neg hlast]

/-- The negation of a low scalar is high. -/
theorem high_neg {s : Scalar} (hs : s ≠ 0) (hlow : s.val ≤ order / 2) : order / 2 < (-s).val := by
  have hodd : order % 2 = 1 := by decide
  rw [val_neg_of_ne_zero hs]
  omega

theorem Encodes.twin_eq {signature : Bytes} {r s : Scalar} {candidate : ℕ}
    (h : Encodes signature r s candidate) (last : UInt8) :
    twin signature last = Bytes.ofNat 32 r.val ++ Bytes.ofNat 32 (-s).val ++ [last] := by
  have htake : signature.take 32 = Bytes.ofNat 32 r.val := by
    rw [h.bytes_eq, List.append_assoc, List.take_left' (Bytes.length_ofNat 32 _)]
  rw [twin, htake, h.drop_take_eq, val_neg_of_ne_zero h.s_ne_zero]

/-- A twin of a signature is refused, with any last byte and for any message. -/
theorem recover_twin {message signature : Bytes} {address : Address}
    (h : recover message signature = .ok address) (last : UInt8) (other : Bytes) :
    recover other (twin signature last) = .error (highFault last) := by
  obtain ⟨r, s, candidate, -, hencodes, -, -⟩ := exists_encodes_of_recover h
  rw [hencodes.twin_eq]
  exact recover_of_high hencodes.r_ne_zero (high_neg hencodes.s_ne_zero hencodes.s_low) last other

/-- The candidate of the other parity. -/
def otherCandidate (candidate : ℕ) : ℕ := if candidate % 2 = 1 then candidate - 1 else candidate + 1

theorem otherCandidate_spec {candidate : ℕ} (hle : candidate ≤ 3) :
    otherCandidate candidate ≤ 3 ∧ otherCandidate candidate % 2 ≠ candidate % 2 ∧
      (2 ≤ otherCandidate candidate ↔ 2 ≤ candidate) := by
  unfold otherCandidate
  split <;> omega

/-- **Only its high `s` speaks against a twin.**  From an accepted signature anyone can write a twin
that stands for the same point, with a last byte that would be accepted. -/
theorem exists_signer?_twin {message signature : Bytes} {address : Address}
    (h : recover message signature = .ok address) :
    ∃ last : UInt8, signer? message (twin signature last) = signer? message signature ∧
      recover message (twin signature last) = .error .verificationFailed := by
  obtain ⟨r, s, candidate, point, hencodes, hpoint, -⟩ := exists_encodes_of_recover h
  obtain ⟨hle, hparity, hover⟩ := otherCandidate_spec hencodes.candidate_le
  have hlast := toNat_lastByte hle
  refine ⟨UInt8.ofNat (recoveryOffset + otherCandidate candidate), ?_, ?_⟩
  · rw [hencodes.signer?_eq, hpoint, hencodes.twin_eq, signer?_scalars, hlast,
      Nat.add_sub_cancel_left]
    exact recoverPoint?_neg hparity hover hpoint
  · rw [recover_twin h, highFault, hlast, if_pos]
    unfold recoveryOffset
    omega

/-- **A signature is not malleable.**  If an address is recovered from a signature, its `s` is at most
half the order, and no twin of it is accepted, with any last byte: neither for this message nor for
another one. -/
theorem recover_not_malleable (message signature : Bytes) (address : Address)
    (h : recover message signature = .ok address) :
    signature.length = 65 ∧
      Bytes.toNat ((signature.drop 32).take 32) ≤ order / 2 ∧
      ∀ (last : UInt8) (other : Bytes),
        recover other (twin signature last) = .error (highFault last) := by
  obtain ⟨r, s, candidate, -, hencodes, -, -⟩ := exists_encodes_of_recover h
  exact ⟨hencodes.length_eq, hencodes.drop_take_eq ▸ hencodes.s_low, recover_twin h⟩

/-- A signature of the key of the number one, and its twins with the last bytes of both candidates
and with those just below and above all candidates. -/
theorem recover_not_malleable_sampleText : ∃ sig : FixedBytes 65,
    recover (Text.utf8 sampleText) sig.bytes = .ok keyOne.address ∧
      Bytes.toNat ((sig.bytes.drop 32).take 32) ≤ order / 2 ∧
      recover (Text.utf8 sampleText) (twin sig.bytes 26) = .error .invalidSignature ∧
      recover (Text.utf8 sampleText) (twin sig.bytes 27) = .error .verificationFailed ∧
      recover (Text.utf8 sampleText) (twin sig.bytes 28) = .error .verificationFailed ∧
      recover (Text.utf8 sampleText) (twin sig.bytes 31) = .error .invalidSignature := by
  obtain ⟨sig, hsig⟩ := exists_sign_sampleText
  have hrecover := (Key.consistent_ofSecret? ofSecret?_one).recover_sign hsig
  obtain ⟨-, hlow, hrefused⟩ := recover_not_malleable _ sig.bytes _ hrecover
  exact ⟨sig, hrecover, hlow, hrefused 26 _, hrefused 27 _, hrefused 28 _, hrefused 31 _⟩

end RollupWallet.Layer1

namespace RollupWallet.ChangePubKey

open Layer1

/-- **An owner's consent has one form.**  A change of key that is accepted is refused with a twin of
the owner's signature in its place, at any time. -/
theorem check_twin {context : Context} {op : ChangePubKey} {sig : Bytes}
    (hcheck : op.check context = .ok ()) (hsig : op.layer1Sig = some sig) (last : UInt8)
    (now : Context) :
    ({ op with layer1Sig := some (twin sig last) } : ChangePubKey).check now =
      .error (.crypto (highFault last)) := by
  obtain ⟨⟨key, hkey⟩, hconsent, -⟩ := check_eq_ok_iff.mp hcheck
  have hrefused := recover_twin (hconsent sig hsig) last (Text.utf8 op.message)
  refine bind_eq_error.mpr (.inr ⟨key, lift_crypto_eq_ok.mpr hkey, ?_⟩)
  exact bind_eq_error.mpr (.inl (mapError_eq_error.mpr ⟨_, hrefused, rfl⟩))

end RollupWallet.ChangePubKey
