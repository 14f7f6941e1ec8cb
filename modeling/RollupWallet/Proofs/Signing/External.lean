import Mathlib
import RollupWallet.Proofs.Tx.Allowed
import RollupWallet.Proofs.Tx.SignBody

/-!
# Signatures made elsewhere

A transaction is signed by a key at hand, or it is given a signature that was made elsewhere, with
the key of that signature or without.  The three ways differ in where the signature comes from and in
whether it is checked; the checks of the transaction and what is signed of it they have in common
(`Signer.signOperation_eq_ok_iff`).

So the three agree once the signature of the key at hand is known to hold.  For a signature that
comes with its key more is true: it is attached exactly if it verifies under that key
(`Assembler.attach_eq_ok_iff`).  It need not be the one that the key at hand makes, since a signature
with another commitment holds as well.
-/

namespace RollupWallet

open Eddsa

variable {context : Context} {op : Operation}

theorem Tx.verify_some_eq_ok_iff {revision : Revision} {key : PublicKey} {sig : Signature} :
    Tx.verify revision key ⟨op, some sig⟩ = .ok () ↔
      ∃ digest, op.digest revision = .ok digest ∧ key.verify digest.bytes sig = .ok () := by
  refine bind_eq_ok.trans (exists_congr fun digest => and_congr_right fun _ => ?_)
  exact lift_crypto_eq_ok

/-! ### What a signer gives -/

namespace Signer

variable {signer : Signer} {tx : Tx}

/-- **What a signer gives** is the operation with a signature of its digest, if the operation passes
the checks and the signature verifies as far as the signer's key is known. -/
theorem signOperation_eq_ok_iff :
    signer.signOperation context op = .ok tx ↔
      ∃ body, op.signBody context = .ok body ∧ ∃ sig, signer.sign body.digest = .ok sig ∧
        (∀ key, signer.publicKey = some key → key.verify body.message sig = .ok ()) ∧
        tx = ⟨op, some sig⟩ := by
  refine bind_eq_ok.trans (exists_congr fun body => and_congr_right fun _ => ?_)
  refine bind_eq_ok.trans (exists_congr fun sig => and_congr_right fun _ => ?_)
  cases signer.publicKey with
  | none =>
      constructor
      · intro h
        exact ⟨nofun, (Except.ok.inj h).symm⟩
      · rintro ⟨_, rfl⟩
        rfl
  | some key =>
      constructor
      · intro h
        obtain ⟨_, hverify, h⟩ := bind_eq_ok.mp h
        refine ⟨?_, (Except.ok.inj h).symm⟩
        rintro _ ⟨rfl⟩
        exact lift_crypto_eq_ok.mp hverify
      · rintro ⟨hverify, rfl⟩
        exact bind_eq_ok.mpr ⟨(), lift_crypto_eq_ok.mpr (hverify key rfl), rfl⟩

end Signer

/-! ### The three ways -/

namespace Assembler

variable {assembler : Assembler} {sig : Signature} {publicKey : Option PublicKey} {tx : Tx}

theorem attach_eq (hkind : op.kind ≠ .atomicMatch) :
    assembler.attach op sig publicKey =
      (Signer.external sig publicKey).signOperation assembler.context op := by
  unfold attach refuseMatch
  rw [if_neg hkind]
  rfl

/-- **A signature is attached** exactly to what passes the checks, and only if it verifies under the
key that it comes with. -/
theorem attach_eq_ok_iff (hkind : op.kind ≠ .atomicMatch) :
    assembler.attach op sig publicKey = .ok tx ↔
      op.validate assembler.context = .ok () ∧
        (∀ key, publicKey = some key →
          Tx.verify assembler.context.revision key ⟨op, some sig⟩ = .ok ()) ∧
        tx = ⟨op, some sig⟩ := by
  rw [attach_eq hkind, Signer.signOperation_eq_ok_iff]
  constructor
  · rintro ⟨body, hbody, _, ⟨rfl⟩, hverify, rfl⟩
    obtain ⟨hvalid, hdigest⟩ := Operation.validate_of_signBody hbody
    refine ⟨hvalid, fun key hkey => ?_, rfl⟩
    exact Tx.verify_some_eq_ok_iff.mpr ⟨body.digest, hdigest, hverify key hkey⟩
  · rintro ⟨hvalid, hverify, rfl⟩
    obtain ⟨body, hbody, hdigest⟩ := Operation.signBody_of_validate_ok hvalid
    refine ⟨body, hbody, sig, rfl, fun key hkey => ?_, rfl⟩
    obtain ⟨digest, hsame, h⟩ := Tx.verify_some_eq_ok_iff.mp (hverify key hkey)
    obtain rfl := Except.ok.inj (hdigest.symm.trans hsame)
    exact h

/-- A key at hand signs what is signed of an operation. -/
theorem sign_ofKey_of_signBody {key : SecretKey} (hkey : key.Consistent)
    (hkind : op.kind ≠ .atomicMatch) {body : SignBody} (hbody : op.signBody context = .ok body) :
    (Assembler.mk context (some (Signer.ofKey key))).sign op =
      .ok ⟨op, some (key.sign body.message)⟩ := by
  rw [sign_eq _ hkind, Signer.signOperation_eq_ok_iff]
  refine ⟨body, hbody, key.sign body.message, rfl, ?_, rfl⟩
  rintro _ ⟨rfl⟩
  exact hkey.verify_sign body.message

/-- What a key at hand signs depends on the digest only. -/
theorem sign_ofKey_of_validate {key : SecretKey} (hkey : key.Consistent)
    (hkind : op.kind ≠ .atomicMatch) (hvalid : op.validate context = .ok ()) {digest : Bytes32}
    (hdigest : op.digest context.revision = .ok digest) :
    (Assembler.mk context (some (Signer.ofKey key))).sign op =
      .ok ⟨op, some (key.sign digest.bytes)⟩ := by
  obtain ⟨body, hbody, hsame⟩ := Operation.signBody_of_validate_ok hvalid
  obtain rfl := Except.ok.inj (hdigest.symm.trans hsame)
  exact sign_ofKey_of_signBody hkey hkind hbody

theorem attach_of_validate_error (hkind : op.kind ≠ .atomicMatch) {e : WalletError}
    (h : op.validate assembler.context = .error e) :
    assembler.attach op sig publicKey = .error e := by
  rw [attach_eq hkind]
  exact bind_eq_error.mpr (.inl (Operation.signBody_of_validate_error h))

end Assembler

/-- **Signing elsewhere and signing with a key at hand agree**, on every transaction of any kind but
a match.  Where nothing can be signed, all ways report that error.  Otherwise the key's signature of
what is signed, attached with the key or without, gives the transaction that signing with the key
gives.  And any signature that comes with any key is attached exactly if the transaction is valid and
the signature of its digest verifies under the key; then nothing but the signature is new, and the
result verifies. -/
theorem attach_agrees_sign (seed : String) (hseed : seed ≠ "") :
    ∃ key : SecretKey, SecretKey.ofSeed seed = .ok key ∧
      ∀ (outside : Assembler) (tx : Tx), tx.content.kind ≠ .atomicMatch →
        let context := outside.context
        let inside : Assembler := ⟨context, some (Signer.ofKey key)⟩
        (∀ e, tx.content.signBody context = .error e →
          inside.sign tx.content = .error e ∧
            ∀ sig publicKey, outside.attach tx.content sig publicKey = .error e) ∧
        (∀ body, tx.content.signBody context = .ok body →
          let sig := key.sign body.message
          inside.sign tx.content = .ok { tx with sig := some sig } ∧
            outside.attach tx.content sig (some key.publicKey) = inside.sign tx.content ∧
            outside.attach tx.content sig none = inside.sign tx.content) ∧
        ∀ (sig : Signature) (publicKey : PublicKey),
          ((∃ signed, outside.attach tx.content sig (some publicKey) = .ok signed) ↔
            tx.content.validate context = .ok () ∧
              ∃ digest, tx.content.digest context.revision = .ok digest ∧
                publicKey.verify digest.bytes sig = .ok ()) ∧
          ∀ signed, outside.attach tx.content sig (some publicKey) = .ok signed →
            signed = { tx with sig := some sig } ∧
              signed.verify context.revision publicKey = .ok () := by
  obtain ⟨key, hofSeed, hkey⟩ := SecretKey.exists_ofSeed_eq_ok hseed
  refine ⟨key, hofSeed, ?_⟩
  intro outside tx hkind context inside
  refine ⟨?_, ?_, ?_⟩
  · intro e hbody
    have hvalid := Operation.validate_eq_error_iff.mpr hbody
    exact ⟨Assembler.sign_of_validate_error _ hkind hvalid, fun _ _ =>
      Assembler.attach_of_validate_error hkind hvalid⟩
  · intro body hbody sig
    have hsign := Assembler.sign_ofKey_of_signBody hkey hkind hbody
    obtain ⟨hvalid, hdigest⟩ := Operation.validate_of_signBody hbody
    refine ⟨hsign, ?_, ?_⟩
    · rw [hsign, Assembler.attach_eq_ok_iff hkind]
      refine ⟨hvalid, ?_, rfl⟩
      rintro _ ⟨rfl⟩
      exact Tx.verify_some_eq_ok_iff.mpr ⟨_, hdigest, hkey.verify_sign body.message⟩
    · rw [hsign, Assembler.attach_eq_ok_iff hkind]
      exact ⟨hvalid, nofun, rfl⟩
  · intro sig publicKey
    refine ⟨?_, ?_⟩
    · rw [← Tx.verify_some_eq_ok_iff]
      constructor
      · rintro ⟨signed, h⟩
        obtain ⟨hvalid, hverify, _⟩ := (Assembler.attach_eq_ok_iff hkind).mp h
        exact ⟨hvalid, hverify publicKey rfl⟩
      · rintro ⟨hvalid, hverify⟩
        refine ⟨_, (Assembler.attach_eq_ok_iff hkind).mpr ⟨hvalid, ?_, rfl⟩⟩
        rintro _ ⟨rfl⟩
        exact hverify
    · intro signed h
      obtain ⟨_, hverify, rfl⟩ := (Assembler.attach_eq_ok_iff hkind).mp h
      exact ⟨rfl, hverify publicKey rfl⟩

/-- A cancellation of an offer. -/
def cancellation : Operation := .cancelOffer ⟨1, 2, ⟨0, 0, 7, 9, 3⟩⟩

theorem validate_cancellation : cancellation.validate ⟨5, .v2⟩ = .ok () := by
  refine Operation.validate_eq_ok_iff_allowed.mpr ⟨⟨by decide, by decide, ?_⟩, ⟨by decide⟩⟩
  exact ⟨by decide, by decide, by decide, by decide, by decide⟩

theorem validate_cancellation_expired :
    cancellation.validate ⟨9, .v2⟩ = .error (.invalidInput ⟨"ExpiredAt", .expired 9 9⟩) :=
  bind_eq_error.mpr (.inl rfl)

/-- The cancellation is signed with a key at hand and elsewhere by the same key.  When it has
expired, its signature is not attached any more. -/
theorem attach_agrees_sign_cancelOffer :
    "wallet" ≠ "" ∧ ∃ (key : SecretKey) (sig : Signature) (signed : Tx),
      SecretKey.ofSeed "wallet" = .ok key ∧
      (Assembler.mk ⟨5, .v2⟩ (some (Signer.ofKey key))).sign cancellation = .ok signed ∧
      (Assembler.mk ⟨5, .v2⟩ none).attach cancellation sig (some key.publicKey) = .ok signed ∧
      signed.verify .v2 key.publicKey = .ok () ∧
      (Assembler.mk ⟨9, .v2⟩ none).attach cancellation sig (some key.publicKey) =
        .error (.invalidInput ⟨"ExpiredAt", .expired 9 9⟩) := by
  obtain ⟨key, hkey, hagree⟩ := attach_agrees_sign "wallet" (by decide)
  obtain ⟨body, hbody⟩ := Operation.validate_eq_ok_iff_signBody.mp validate_cancellation
  obtain ⟨_, hsame, hattach⟩ := hagree ⟨⟨5, .v2⟩, none⟩ ⟨cancellation, none⟩ (by decide)
  obtain ⟨hsign, hkeyed, _⟩ := hsame body hbody
  obtain ⟨_, hresult⟩ := hattach (key.sign body.message) key.publicKey
  obtain ⟨_, hverify⟩ := hresult _ (hkeyed.trans hsign)
  obtain ⟨hrefused, _⟩ := hagree ⟨⟨9, .v2⟩, none⟩ ⟨cancellation, none⟩ (by decide)
  obtain ⟨_, hlater⟩ := hrefused _ (Operation.validate_eq_error_iff.mp validate_cancellation_expired)
  exact ⟨by decide, key, _, _, hkey, hsign, hkeyed.trans hsign, hverify, hlater _ _⟩

end RollupWallet
