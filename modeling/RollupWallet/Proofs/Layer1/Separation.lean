import Mathlib
import RollupWallet.Proofs.Layer1.Recovery
import RollupWallet.Proofs.Tx.Message

/-!
# A layer-1 signature is made for one text

The length of a message stands in front of it without anything that ends it, so a preimage might be
read as a shorter number before a longer message.  But then its own length would be wrong: a longer
message has a number with at least as many digits before it (`personalPreimage_injective`).

So preimages of different texts differ, and one signature can hold for both only if the digests agree
where recovery looks at them (`collides_of_recover`).
-/

namespace RollupWallet.Layer1

open Curve.Secp256k1 GroupPoint Text

/-! ### Preimages -/

/-- **The preimage of a message determines it.** -/
theorem personalPreimage_injective : Function.Injective personalPreimage := by
  intro a b h
  unfold personalPreimage at h
  generalize [0x19] ++ utf8 "Ethereum Signed Message:\n" = opening at h
  rw [List.append_assoc, List.append_assoc] at h
  have hbody := List.append_cancel_left h
  have hlength : (Decimal.natural a.length).length + a.length =
      (Decimal.natural b.length).length + b.length := by
    rw [← List.length_append, ← List.length_append, hbody]
  have heq : a.length = b.length := by
    rcases lt_trichotomy a.length b.length with hlt | heq | hlt
    · have hdigits := Decimal.length_natural_le hlt.le
      omega
    · exact heq
    · have hdigits := Decimal.length_natural_le hlt.le
      omega
  rw [heq] at hbody
  exact List.append_cancel_left hbody

/-! ### Families of texts -/

theorem utf8_seedMessage (chainId : ℕ) :
    utf8 (seedMessage chainId) =
      utf8 "Access zkbnb account.\n\nOnly sign this message for a trusted client!\nChain ID: " ++
        Decimal.natural chainId ++ utf8 "." := by
  unfold seedMessage
  simp only [utf8_append, utf8_toString_string, utf8_toString_nat, List.append_assoc]

/-- The text for a seed determines the chain. -/
theorem seedMessage_injective : Function.Injective seedMessage := by
  intro m n h
  have hutf8 := congrArg utf8 h
  rw [utf8_seedMessage, utf8_seedMessage] at hutf8
  exact Decimal.natural_injective (List.append_cancel_left (List.append_cancel_right hutf8))

theorem head?_changePubKeyMessage (keyX keyY : Bytes32) (nonce account : Int64) :
    (utf8 (changePubKeyMessage keyX keyY nonce account)).head? = some 82 := by
  rw [utf8_changePubKeyMessage]
  rfl

theorem head?_seedMessage (chainId : ℕ) : (utf8 (seedMessage chainId)).head? = some 65 := by
  rw [utf8_seedMessage]
  rfl

theorem head?_offerMessage (op : Offer) : (utf8 op.message).head? = some 79 := by
  rw [Offer.utf8_message]
  rfl

/-! ### One signature and two texts -/

/-- Different bytes whose digests are the same as far as they are looked at. -/
def Collides {α : Type} (view : Bytes32 → α) (a b : Bytes) : Prop :=
  a ≠ b ∧ view (Hash.keccak256 a) = view (Hash.keccak256 b)

/-- The bytes of a point whose digest ends with its address. -/
def pointBytes : Point → Bytes
  | .zero => []
  | .affine x y => Bytes.ofNat 32 x.val ++ Bytes.ofNat 32 y.val

/-- The point under which a signature holds for a message. -/
def signer? (message signature : Bytes) : Option Point :=
  recoverPoint? (personalDigest message) (Fin.ofNat order (Bytes.toNat (signature.take 32)))
    (Fin.ofNat order (Bytes.toNat ((signature.drop 32).take 32)))
    (Bytes.toNat (signature.drop 64) - recoveryOffset)

theorem signer?_scalars (r s : Scalar) (last : UInt8) (message : Bytes) :
    signer? message (Bytes.ofNat 32 r.val ++ Bytes.ofNat 32 s.val ++ [last]) =
      recoverPoint? (personalDigest message) r s (last.toNat - recoveryOffset) := by
  rw [signer?, take_scalars, drop_take_scalars, drop_scalars, Bytes.toNat_singleton,
    Fin.ofNat_val_eq_self, Fin.ofNat_val_eq_self]

theorem Encodes.signer?_eq {signature : Bytes} {r s : Scalar} {candidate : ℕ}
    (h : Encodes signature r s candidate) (message : Bytes) :
    signer? message signature = recoverPoint? (personalDigest message) r s candidate := by
  rw [h.bytes_eq, signer?_scalars, h.toNat_last, Nat.add_sub_cancel_left]

theorem pointBytes_inj {p q : Point} (hp : p ≠ .zero) (hq : q ≠ .zero)
    (h : pointBytes p = pointBytes q) : p = q := by
  cases p with
  | zero => exact absurd rfl hp
  | affine x y =>
  cases q with
  | zero => exact absurd rfl hq
  | affine x' y' =>
      have hval : ∀ a : Coordinate, Bytes.toNat (Bytes.ofNat 32 a.val) = a.val := fun a => by
        rw [Bytes.toNat_ofNat, Nat.mod_eq_of_lt (a.isLt.trans (by decide))]
      obtain ⟨hx, hy⟩ := List.append_inj h (by rw [Bytes.length_ofNat, Bytes.length_ofNat])
      have hx := congrArg Bytes.toNat hx
      have hy := congrArg Bytes.toNat hy
      rw [hval, hval] at hx hy
      rw [Fin.ext hx, Fin.ext hy]

theorem bytes_addressOf {p : Point} (hp : p ≠ .zero) :
    (addressOf p).bytes = (Hash.keccak256 (pointBytes p)).bytes.drop 12 := by
  cases p with
  | zero => exact absurd rfl hp
  | affine x y => simp only [addressOf, pointBytes]

/-- If `r` and `s` lead to one point for two digests, the digests are the same scalar. -/
theorem mod_order_eq_of_recoverPoint? {digest digest' : Bytes32} {r s : Scalar} {candidate : ℕ}
    {point : Point} (hr : r ≠ 0) (h : recoverPoint? digest r s candidate = some point)
    (h' : recoverPoint? digest' r s candidate = some point) :
    digest.toNat % order = digest'.toNat % order := by
  obtain ⟨commitment, hx, hpoint, -⟩ := exists_commitment_of_recoverPoint? h
  obtain ⟨commitment', hx', hpoint', -⟩ := exists_commitment_of_recoverPoint? h'
  obtain rfl := toPoint_injective (Option.some.inj (hx.symm.trans hx'))
  have hsum := toPoint_injective (hpoint.symm.trans hpoint')
  have hscalar := neg_injective (multiple_injective (add_right_cancel hsum))
  have hcancel : r * Arith.inv r = 1 := Arith.mul_inv_cancel prime_order hr
  have hinv : Arith.inv r ≠ 0 := fun h0 => by
    rw [h0, mul_zero] at hcancel
    exact absurd hcancel (by decide)
  exact congrArg Fin.val (mul_left_cancel₀ hinv hscalar)

/-- **One signature does not hold for two messages without a collision.** -/
theorem collides_of_recover {m m' signature : Bytes} {address : Address} (hne : m ≠ m')
    (h : recover m signature = .ok address) (h' : recover m' signature = .ok address) :
    Collides (fun digest => digest.toNat % order) (personalPreimage m) (personalPreimage m') ∨
      ∃ p q, signer? m signature = some p ∧ signer? m' signature = some q ∧
        Collides (fun digest => digest.bytes.drop 12) (pointBytes p) (pointBytes q) := by
  obtain ⟨r, s, candidate, p, hencodes, hp, hpaddress⟩ := exists_encodes_of_recover h
  obtain ⟨r', s', candidate', q, hencodes', hq, hqaddress⟩ := exists_encodes_of_recover h'
  obtain ⟨rfl, rfl, rfl⟩ := hencodes.unique hencodes'
  by_cases heq : p = q
  · subst heq
    exact Or.inl ⟨fun h0 => hne (personalPreimage_injective h0),
      mod_order_eq_of_recoverPoint? hencodes.r_ne_zero hp hq⟩
  · obtain ⟨-, -, -, hp0⟩ := exists_commitment_of_recoverPoint? hp
    obtain ⟨-, -, -, hq0⟩ := exists_commitment_of_recoverPoint? hq
    refine Or.inr ⟨p, q, (hencodes.signer?_eq m).trans hp, (hencodes.signer?_eq m').trans hq, ?_⟩
    refine ⟨fun h0 => heq (pointBytes_inj hp0 hq0 h0), ?_⟩
    simp only [← bytes_addressOf hp0, ← bytes_addressOf hq0, hpaddress, hqaddress]

/-- **What a layer-1 key signs says one thing.**  The text of a change of key, the text for a seed and
the text of an offer determine the values in them, none of them is one of another family, and what is
hashed of a text determines the text.  So a signature that holds for one message does not hold for
another under the same address, unless two different preimages or two different points have digests
that agree. -/
theorem signed_texts_separate :
    (∀ (keyX keyY keyX' keyY' : Bytes32) (nonce account nonce' account' : Int64),
      changePubKeyMessage keyX keyY nonce account =
          changePubKeyMessage keyX' keyY' nonce' account' ↔
        keyX = keyX' ∧ keyY = keyY' ∧ nonce = nonce' ∧ account = account') ∧
    (∀ chainId chainId' : ℕ, seedMessage chainId = seedMessage chainId' ↔ chainId = chainId') ∧
    (∀ op op' : Offer, op.message = op'.message ↔
      op.side = op'.side ∧ op.id = op'.id ∧ op.account = op'.account ∧ op.nft = op'.nft ∧
        op.asset = op'.asset ∧ op.amount = op'.amount ∧ op.listedAt = op'.listedAt ∧
        op.expiredAt = op'.expiredAt ∧ op.treasuryRate = op'.treasuryRate) ∧
    (∀ (keyX keyY : Bytes32) (nonce account : Int64) (chainId : ℕ) (op : Offer),
      changePubKeyMessage keyX keyY nonce account ≠ seedMessage chainId ∧
        changePubKeyMessage keyX keyY nonce account ≠ op.message ∧
        seedMessage chainId ≠ op.message) ∧
    (∀ message : Bytes, personalDigest message = Hash.keccak256 ([0x19] ++
      utf8 "Ethereum Signed Message:\n" ++ Decimal.natural message.length ++ message)) ∧
    (∀ message message' : Bytes,
      personalPreimage message = personalPreimage message' ↔ message = message') ∧
    (∀ text text' : String,
      personalPreimage (utf8 text) = personalPreimage (utf8 text') ↔ text = text') ∧
    ∀ (message message' signature : Bytes) (address : Address), message ≠ message' →
      recover message signature = .ok address →
        recover message' signature ≠ .ok address ∨
        Collides (fun digest => digest.toNat % order) (personalPreimage message)
          (personalPreimage message') ∨
        ∃ p q, signer? message signature = some p ∧ signer? message' signature = some q ∧
          Collides (fun digest => digest.bytes.drop 12) (pointBytes p) (pointBytes q) := by
  refine ⟨fun _ _ _ _ _ _ _ _ => changePubKeyMessage_eq_iff, fun _ _ => seedMessage_injective.eq_iff,
    fun _ _ => Offer.message_eq_iff, ?_, fun _ => rfl, fun _ _ => personalPreimage_injective.eq_iff,
    fun _ _ => (personalPreimage_injective.comp utf8_injective).eq_iff, ?_⟩
  · -- the first letter tells the families apart
    intro keyX keyY nonce account chainId op
    have hkey := head?_changePubKeyMessage keyX keyY nonce account
    have hseed := head?_seedMessage chainId
    have hoffer := head?_offerMessage op
    refine ⟨fun h => ?_, fun h => ?_, fun h => ?_⟩
    · rw [h, hseed] at hkey
      exact absurd hkey (by decide)
    · rw [h, hoffer] at hkey
      exact absurd hkey (by decide)
    · rw [h, hoffer] at hseed
      exact absurd hseed (by decide)
  · intro message message' signature address hne h
    by_cases h' : recover message' signature = .ok address
    · exact Or.inr (collides_of_recover hne h h')
    · exact Or.inl h'

/-- The text of the change of an account's key to the generator. -/
theorem changePubKeyMessage_generator : changePubKeyMessage Curve.Point.generator.x.toBytes32
    Curve.Point.generator.y.toBytes32 3 2 = sampleText := by
  apply utf8_injective
  rw [utf8_changePubKeyMessage]
  decide +kernel

/-- A signature of a change of key and the text for a seed. -/
theorem signed_texts_separate_seed : ∃ (signature : Bytes) (address : Address),
    utf8 sampleText ≠ utf8 (seedMessage 1) ∧ recover (utf8 sampleText) signature = .ok address ∧
      (recover (utf8 (seedMessage 1)) signature ≠ .ok address ∨
        Collides (fun digest => digest.toNat % order) (personalPreimage (utf8 sampleText))
          (personalPreimage (utf8 (seedMessage 1))) ∨
        ∃ p q, signer? (utf8 sampleText) signature = some p ∧
          signer? (utf8 (seedMessage 1)) signature = some q ∧
          Collides (fun digest => digest.bytes.drop 12) (pointBytes p) (pointBytes q)) := by
  obtain ⟨sig, hsig⟩ := exists_sign_sampleText
  have hne : utf8 sampleText ≠ utf8 (seedMessage 1) := by
    intro h
    have hhead := head?_seedMessage 1
    rw [← h] at hhead
    exact absurd hhead (by decide)
  have hrecover := (Key.consistent_ofSecret? ofSecret?_one).recover_sign hsig
  obtain ⟨_, _, _, _, _, _, _, hseparate⟩ := signed_texts_separate
  exact ⟨_, _, hne, hrecover, hseparate _ _ _ _ hne hrecover⟩

end RollupWallet.Layer1
