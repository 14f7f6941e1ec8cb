import Mathlib
import RollupWallet.Proofs.Layer1.Separation
import RollupWallet.Proofs.Signing.External

/-!
# The consent to a change of key

A change of key carries two signatures: that of the account, and the owner's on layer 1, which is
the consent.  They can be given in either order.  In the one order the consent is there when the
change is signed, and it is among what is checked before; in the other it comes afterwards, and
nothing is checked again.

Neither signature is part of what the other one signs.  The text that the owner consents to does not
mention the signature, and the table whose digest is signed has no field for the consent, so that
both orders sign the same digest (`Assembler.sign_authorize`).  What is left is that the check of the
consent passes, and it does because the owner's address is recovered from what the owner signed
(`ChangePubKey.validate_authorize`).
-/

namespace RollupWallet

open Eddsa

namespace ChangePubKey

variable {context : Context} {op consented : ChangePubKey} {owner : Layer1.Key}

/-- The change without a consent. -/
def withoutConsent (op : ChangePubKey) : ChangePubKey := { op with layer1Sig := none }

/-- What the owner consents to does not mention a consent. -/
theorem authorize_withoutConsent : op.withoutConsent.authorize owner = op.authorize owner := by
  have hmessage : op.withoutConsent.message = op.message := rfl
  unfold authorize
  rw [hmessage]
  rfl

theorem authorize_eq_ok_iff : op.authorize owner = .ok consented ↔
    ∃ sig, owner.sign (Text.utf8 op.message) = .ok sig ∧
      consented = { op with layer1Sig := some sig.bytes } := by
  refine bind_eq_ok.trans (exists_congr fun sig => and_congr_right fun _ => ?_)
  exact ⟨fun h => (Except.ok.inj h).symm, fun h => congrArg Except.ok h.symm⟩

/-- A change is valid exactly if it is valid without its consent and the owner gave the consent. -/
theorem validate_eq_ok_iff : (Operation.changePubKey op).validate context = .ok () ↔
    (Operation.changePubKey op.withoutConsent).validate context = .ok () ∧
      ∀ sig, op.layer1Sig = some sig →
        Layer1.recover (Text.utf8 op.message) sig = .ok op.owner := by
  rw [Operation.validate_eq_ok_iff, Operation.validate_eq_ok_iff]
  have hcheck : op.check context = .ok () ↔ op.withoutConsent.check context = .ok () ∧
      ∀ sig, op.layer1Sig = some sig →
        Layer1.recover (Text.utf8 op.message) sig = .ok op.owner := by
    rw [check_eq_ok_iff, check_eq_ok_iff]
    constructor
    · rintro ⟨hkey, hsig, hexpiry⟩
      exact ⟨⟨hkey, nofun, hexpiry⟩, hsig⟩
    · rintro ⟨⟨hkey, _, hexpiry⟩, hsig⟩
      exact ⟨hkey, hsig, hexpiry⟩
  -- the table has no field for the consent
  constructor
  · rintro ⟨h, htable⟩
    exact ⟨⟨(hcheck.mp h).1, htable⟩, (hcheck.mp h).2⟩
  · rintro ⟨⟨h, htable⟩, hsig⟩
    exact ⟨hcheck.mpr ⟨h, hsig⟩, htable⟩

/-- **The owner's consent keeps a change valid.** -/
theorem validate_authorize (howner : owner.Consistent) (haddress : owner.address = op.owner)
    (hvalid : (Operation.changePubKey op.withoutConsent).validate context = .ok ())
    (hconsent : op.authorize owner = .ok consented) :
    (Operation.changePubKey consented).validate context = .ok () := by
  obtain ⟨sig, hsig, rfl⟩ := authorize_eq_ok_iff.mp hconsent
  refine validate_eq_ok_iff.mpr ⟨hvalid, ?_⟩
  rintro _ ⟨rfl⟩
  rw [← haddress]
  exact howner.recover_sign hsig

/-- **Nobody else's consent does**, whether the change has expired or not. -/
theorem validate_authorize_of_ne (howner : owner.Consistent) (haddress : owner.address ≠ op.owner)
    {key : PublicKey} (hkey : PublicKey.ofCoordinates op.keyX op.keyY = .ok key)
    (hconsent : op.authorize owner = .ok consented) (context : Context) :
    (Operation.changePubKey consented).validate context =
      .error (.crypto .verificationFailed) := by
  obtain ⟨sig, hsig, rfl⟩ := authorize_eq_ok_iff.mp hconsent
  have hsigner := lift_crypto_eq_ok.mpr (howner.recover_sign hsig)
  refine bind_eq_error.mpr (.inl (bind_eq_error.mpr (.inr ⟨key, lift_crypto_eq_ok.mpr hkey, ?_⟩)))
  refine bind_eq_error.mpr (.inr ⟨owner.address, hsigner, ?_⟩)
  rw [if_pos haddress]
  rfl

end ChangePubKey

/-! ### The two orders -/

/-- A change of key that may be signed already, with the owner's consent.  Its signature stays what it
is, and other transactions are left alone. -/
def Tx.authorize (owner : Layer1.Key) : Tx → Except CryptoError Tx
  | ⟨.changePubKey op, sig⟩ => do return ⟨.changePubKey (← op.authorize owner), sig⟩
  | tx => .ok tx

theorem Tx.authorize_changePubKey (owner : Layer1.Key) (op : ChangePubKey)
    (sig : Option Signature) : Tx.authorize owner ⟨.changePubKey op, sig⟩ =
      (op.authorize owner).map fun consented => ⟨.changePubKey consented, sig⟩ := by
  cases h : op.authorize owner <;> rw [Tx.authorize, h] <;> rfl

namespace Assembler

variable {context : Context} {key : SecretKey} {owner : Layer1.Key} {op : ChangePubKey}

/-- The owner consents to a change, and then it is signed. -/
def consentThenSign (assembler : Assembler) (owner : Layer1.Key) (op : ChangePubKey) :
    Except WalletError Tx := do
  let consented ← op.authorize owner
  assembler.sign (.changePubKey consented)

/-- A change is signed, and then the owner consents to it. -/
def signThenConsent (assembler : Assembler) (owner : Layer1.Key) (op : ChangePubKey) :
    Except WalletError Tx := do
  let signed ← assembler.sign (.changePubKey op)
  signed.authorize owner

theorem consentThenSign_withoutConsent (assembler : Assembler) :
    assembler.consentThenSign owner op.withoutConsent = assembler.consentThenSign owner op := by
  unfold consentThenSign
  rw [ChangePubKey.authorize_withoutConsent]

theorem kind_ne_atomicMatch (op : ChangePubKey) :
    (Operation.changePubKey op).kind ≠ .atomicMatch := by
  intro h
  cases show TxKind.changePubKey = .atomicMatch from h

/-- The signature of a valid change is the same with the owner's consent and without. -/
theorem sign_authorize (hkey : key.Consistent) (howner : owner.Consistent)
    (haddress : owner.address = op.owner)
    (hvalid : (Operation.changePubKey op).validate context = .ok ()) :
    ∃ sig, (Assembler.mk context (some (Signer.ofKey key))).sign (.changePubKey op) =
        .ok ⟨.changePubKey op, some sig⟩ ∧
      ∀ consented, op.authorize owner = .ok consented →
        (Assembler.mk context (some (Signer.ofKey key))).sign (.changePubKey consented) =
          .ok ⟨.changePubKey consented, some sig⟩ := by
  obtain ⟨body, _, hdigest⟩ := Operation.signBody_of_validate_ok hvalid
  refine ⟨_, sign_ofKey_of_validate hkey (kind_ne_atomicMatch _) hvalid hdigest, ?_⟩
  intro consented hconsent
  have hconsented := ChangePubKey.validate_authorize howner haddress
    (ChangePubKey.validate_eq_ok_iff.mp hvalid).1 hconsent
  -- the two changes have the same digest
  obtain ⟨_, _, rfl⟩ := ChangePubKey.authorize_eq_ok_iff.mp hconsent
  exact sign_ofKey_of_validate hkey (kind_ne_atomicMatch _) hconsented hdigest

/-- **The orders agree on every valid change.** -/
theorem signThenConsent_of_validate_ok (hkey : key.Consistent) (howner : owner.Consistent)
    (haddress : owner.address = op.owner)
    (hvalid : (Operation.changePubKey op).validate context = .ok ()) :
    (Assembler.mk context (some (Signer.ofKey key))).signThenConsent owner op =
      (Assembler.mk context (some (Signer.ofKey key))).consentThenSign owner op := by
  obtain ⟨sig, hsign, hsame⟩ := sign_authorize hkey howner haddress hvalid
  rw [signThenConsent, consentThenSign, hsign, ok_bind, Tx.authorize_changePubKey]
  cases hconsent : op.authorize owner with
  | error e => rw [Except.map, lift_crypto_error, lift_crypto_error, error_bind]
  | ok consented =>
      rw [Except.map, lift_crypto_ok, lift_crypto_ok, ok_bind]
      exact (hsame consented hconsent).symm

theorem signThenConsent_of_validate_error (signer : Signer) {e : WalletError}
    (h : (Operation.changePubKey op).validate context = .error e) :
    (Assembler.mk context (some signer)).signThenConsent owner op = .error e :=
  bind_eq_error.mpr (.inl (sign_of_validate_error signer (kind_ne_atomicMatch op) h))

end Assembler

/-- **The consent to a change of key and its signature commute.**  For every change that is valid
without a consent and every key of an account: if the owner consents, it makes no difference whether
the consent or the signature comes first.  Where the owner's signature can be made at all, the result
is valid and verifies.  A change that has a consent already can be signed first exactly if that one
holds, and then the result is the same as well.  If somebody else consents, the change is refused at
any time, because the consent does not verify. -/
theorem consent_commutes_sign (secret : ℕ) (owner : Layer1.Key) (seed : Bytes) (context : Context)
    (op : ChangePubKey) (howner : Layer1.Key.ofSecret? secret = some owner)
    (hvalid : (Operation.changePubKey op.withoutConsent).validate context = .ok ()) :
    let key := SecretKey.ofSeedBytes seed
    let assembler : Assembler := ⟨context, some (Signer.ofKey key)⟩
    (owner.address = op.owner →
      assembler.signThenConsent owner op.withoutConsent = assembler.consentThenSign owner op ∧
      ((Operation.changePubKey op).validate context = .ok () →
        assembler.signThenConsent owner op = assembler.consentThenSign owner op) ∧
      (∀ e, (Operation.changePubKey op).validate context = .error e →
        assembler.signThenConsent owner op = .error e) ∧
      ∀ consented, op.authorize owner = .ok consented →
        (Operation.changePubKey consented).validate context = .ok () ∧
        ∃ sig, assembler.consentThenSign owner op = .ok ⟨.changePubKey consented, some sig⟩ ∧
          Tx.verify context.revision key.publicKey ⟨.changePubKey consented, some sig⟩ = .ok ()) ∧
    (owner.address ≠ op.owner → ∀ consented, op.authorize owner = .ok consented →
      ∀ later : Context, (Operation.changePubKey consented).validate later =
        .error (.crypto .verificationFailed)) := by
  intro key assembler
  have hconsistent := Layer1.Key.consistent_ofSecret? howner
  have hkey : key.Consistent := SecretKey.consistent_ofSeedBytes seed
  refine ⟨fun haddress => ⟨?_, ?_, ?_, ?_⟩, ?_⟩
  · rw [← Assembler.consentThenSign_withoutConsent]
    exact Assembler.signThenConsent_of_validate_ok hkey hconsistent haddress hvalid
  · exact Assembler.signThenConsent_of_validate_ok hkey hconsistent haddress
  · exact fun e => Assembler.signThenConsent_of_validate_error _
  · intro consented hconsent
    have hconsented := ChangePubKey.validate_authorize hconsistent haddress hvalid hconsent
    obtain ⟨sig, hsign, hverify⟩ := Assembler.sign_of_validate_ok hkey
      (Assembler.kind_ne_atomicMatch consented) hconsented
    refine ⟨hconsented, sig, ?_, hverify⟩
    unfold Assembler.consentThenSign
    rw [hconsent]
    exact hsign
  · intro haddress consented hconsent later
    obtain ⟨hcheck, _⟩ := Operation.validate_eq_ok_iff.mp hvalid
    obtain ⟨⟨point, hpoint⟩, _⟩ := ChangePubKey.check_eq_ok_iff.mp hcheck
    exact ChangePubKey.validate_authorize_of_ne hconsistent haddress hpoint hconsent later

/-! ### A change of key that the key of the number one consents to -/

/-- The change of an owner's key to the generator. -/
def changeOf (owner : Address) : ChangePubKey := { changeTo .generator with owner := owner }

theorem validate_changeOf (owner : Address) :
    (Operation.changePubKey (changeOf owner)).validate ⟨5, .v2⟩ = .ok () := by
  have hhashable : (changeTo .generator).Hashable :=
    ⟨by decide, by decide, by decide, by decide, by decide, by decide, by decide, by decide⟩
  have hallowed : (changeTo .generator).Allowed ⟨5, .v2⟩ :=
    ⟨⟨.generator, Curve.CurvePoint.generator.onCurve_toPoint, rfl, rfl⟩, nofun, by decide⟩
  -- neither mentions the owner as long as there is no consent
  refine Operation.validate_eq_ok_iff_allowed.mpr ⟨?_, ?_⟩
  · exact ⟨hhashable.account, hhashable.keyX, hhashable.keyY, hhashable.envelope⟩
  · exact ⟨hallowed.key_onCurve, nofun, hallowed.not_expired⟩

theorem exists_authorize_changeOf (owner : Address) :
    ∃ consented, (changeOf owner).authorize Layer1.keyOne = .ok consented := by
  obtain ⟨sig, hsig⟩ := Layer1.exists_sign_sampleText
  have hmessage : (changeOf owner).message = Layer1.sampleText :=
    Layer1.changePubKeyMessage_generator
  refine ⟨_, ChangePubKey.authorize_eq_ok_iff.mpr ⟨sig, ?_, rfl⟩⟩
  rw [hmessage]
  exact hsig

/-- The key of the number one consents to a change of its own key, before the signature and after
it, and to the change of another owner's key, which is refused. -/
theorem consent_commutes_sign_keyOne :
    Layer1.Key.ofSecret? 1 = some Layer1.keyOne ∧
    (Operation.changePubKey (changeOf Layer1.keyOne.address)).validate ⟨5, .v2⟩ = .ok () ∧
    (∃ signed,
      (Assembler.mk ⟨5, .v2⟩ (some (Signer.ofKey (SecretKey.ofSeedBytes [7])))).signThenConsent
        Layer1.keyOne (changeOf Layer1.keyOne.address) = .ok signed ∧
      (Assembler.mk ⟨5, .v2⟩ (some (Signer.ofKey (SecretKey.ofSeedBytes [7])))).consentThenSign
        Layer1.keyOne (changeOf Layer1.keyOne.address) = .ok signed ∧
      signed.verify .v2 (SecretKey.ofSeedBytes [7]).publicKey = .ok ()) ∧
    (Operation.changePubKey (changeOf (FixedBytes.ofNat 20 1))).validate ⟨5, .v2⟩ = .ok () ∧
    ∃ consented, (changeOf (FixedBytes.ofNat 20 1)).authorize Layer1.keyOne = .ok consented ∧
      (Operation.changePubKey consented).validate ⟨5, .v2⟩ =
        .error (.crypto .verificationFailed) := by
  have hown := validate_changeOf Layer1.keyOne.address
  have hother := validate_changeOf (FixedBytes.ofNat 20 1)
  obtain ⟨hsame, _⟩ := consent_commutes_sign 1 Layer1.keyOne [7] ⟨5, .v2⟩
    (changeOf Layer1.keyOne.address) Layer1.ofSecret?_one hown
  obtain ⟨_, hrefused⟩ := consent_commutes_sign 1 Layer1.keyOne [7] ⟨5, .v2⟩
    (changeOf (FixedBytes.ofNat 20 1)) Layer1.ofSecret?_one hother
  obtain ⟨_, horders, _, hvalid⟩ := hsame rfl
  obtain ⟨consented, hconsent⟩ := exists_authorize_changeOf Layer1.keyOne.address
  obtain ⟨_, sig, hsigned, hverify⟩ := hvalid consented hconsent
  obtain ⟨foreign, hforeign⟩ := exists_authorize_changeOf (FixedBytes.ofNat 20 1)
  have hfails := hrefused Layer1.address_keyOne_ne foreign hforeign ⟨5, .v2⟩
  exact ⟨Layer1.ofSecret?_one, hown, ⟨_, (horders hown).trans hsigned, hsigned, hverify⟩, hother,
    foreign, hforeign, hfails⟩

end RollupWallet
