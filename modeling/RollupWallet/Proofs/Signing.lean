import Mathlib
import RollupWallet.Proofs.Eddsa.Correctness
import RollupWallet.Proofs.Tx.Table
import RollupWallet.Proofs.Tx.Wire
import RollupWallet.Signing

/-!
# Signing a transaction with a key at hand

With a key at hand, signing fails exactly where the checks fail (`Assembler.sign_ofKey`): every table
that can be encoded has a digest, because all elements are canonical (`Table.exists_signBody`), the
key signs every digest, and the check of the new signature succeeds.

What is signed does not depend on the signature that was there before, nor on the clock.  So the
transaction that is read back from its text verifies whatever the time is, and signing it again gives
the same text (`signJson_spec`).
-/

namespace RollupWallet

open Eddsa

/-! ### Digests of tables -/

/-- The sponge takes canonical elements. -/
theorem Hash.Sponge.exists_foldlM_writeElement? {elements : List Bytes32}
    (h : ∀ element ∈ elements, element.isCanonical = true) :
    ∀ sponge : Sponge, ∃ filled, elements.foldlM Sponge.writeElement? sponge = some filled := by
  induction elements with
  | nil =>
      intro sponge
      exact ⟨sponge, rfl⟩
  | cons element elements ih =>
      intro sponge
      obtain ⟨filled, hfilled⟩ := ih (fun e he => h e (List.mem_cons_of_mem _ he))
        (sponge.write element.bytes)
      refine ⟨filled, ?_⟩
      rw [List.foldlM_cons, Sponge.writeElement?, if_pos (h element List.mem_cons_self)]
      exact hfilled

namespace Table

theorem isCanonical_of_mem_encode {table : Table} {elements : List Bytes32}
    (h : table.encode = .ok elements) : ∀ element ∈ elements, element.isCanonical = true := by
  induction table generalizing elements with
  | nil =>
      rw [← Except.ok.inj h]
      exact nofun
  | cons field table ih =>
      obtain ⟨first, rest, rfl, hfirst, hrest⟩ := encode_cons_eq_ok h
      exact List.forall_mem_cons.mpr ⟨FieldValue.isCanonical_of_encode hfirst, ih hrest⟩

/-- A table that can be encoded has a digest. -/
theorem exists_signBody {table : Table} {elements : List Bytes32}
    (h : table.encode = .ok elements) : ∃ body, table.signBody = .ok body := by
  obtain ⟨filled, hfilled⟩ := Hash.Sponge.exists_foldlM_writeElement?
    (isCanonical_of_mem_encode h) Hash.Sponge.empty
  refine ⟨⟨elements, filled.digest⟩, bind_eq_ok.mpr ⟨elements, lift_eq_ok.mpr h, ?_⟩⟩
  simp only [hfilled]
  rfl

/-- A digest is an element itself. -/
theorem isCanonical_digest {table : Table} {body : SignBody} (h : table.signBody = .ok body) :
    body.digest.isCanonical = true := by
  unfold signBody at h
  obtain ⟨elements, _, h⟩ := bind_eq_ok.mp h
  split at h
  · rw [← Except.ok.inj h]
    exact decide_eq_true (FieldValue.toNat_digest_lt _)
  · cases h

theorem exists_encode_of_signBody {table : Table} {body : SignBody}
    (h : table.signBody = .ok body) : ∃ elements, table.encode = .ok elements := by
  obtain ⟨elements, hencode, _⟩ := bind_eq_ok.mp h
  exact ⟨elements, lift_eq_ok.mp hencode⟩

theorem signBody_of_encode_error {table : Table} {e : InvalidInput}
    (h : table.encode = .error e) : table.signBody = .error (.invalidInput e) := by
  unfold signBody
  rw [h]
  rfl

end Table

/-! ### Signing and checking -/

namespace Operation

variable {op : Operation} {context : Context}

/-- An operation is valid exactly if it keeps its rules and its table can be encoded. -/
theorem validate_eq_ok_iff : op.validate context = .ok () ↔
    op.check context = .ok () ∧ ∃ table, op.table context.revision = .ok table ∧
      ∃ elements, table.encode = .ok elements := by
  constructor
  · intro h
    obtain ⟨_, hcheck, h⟩ := bind_eq_ok.mp h
    obtain ⟨table, htable, h⟩ := bind_eq_ok.mp h
    obtain ⟨elements, hencode, _⟩ := bind_eq_ok.mp h
    exact ⟨hcheck, table, htable, elements, lift_eq_ok.mp hencode⟩
  · rintro ⟨hcheck, table, htable, elements, hencode⟩
    refine bind_eq_ok.mpr ⟨(), hcheck, bind_eq_ok.mpr ⟨table, htable, ?_⟩⟩
    exact bind_eq_ok.mpr ⟨elements, lift_eq_ok.mpr hencode, rfl⟩

/-- An operation that passes the checks is signed under its digest. -/
theorem signBody_of_validate_ok (h : op.validate context = .ok ()) :
    ∃ body, op.signBody context = .ok body ∧
      op.digest context.revision = .ok body.digest := by
  obtain ⟨hcheck, table, htable, elements, hencode⟩ := validate_eq_ok_iff.mp h
  obtain ⟨body, hbody⟩ := Table.exists_signBody hencode
  refine ⟨body, ?_, ?_⟩
  · exact bind_eq_ok.mpr ⟨(), hcheck, bind_eq_ok.mpr ⟨table, htable, hbody⟩⟩
  · exact bind_eq_ok.mpr ⟨table, htable, bind_eq_ok.mpr ⟨body, hbody, rfl⟩⟩

/-- What is signed has passed the checks, and it is signed under its digest. -/
theorem validate_of_signBody {body : SignBody} (h : op.signBody context = .ok body) :
    op.validate context = .ok () ∧ op.digest context.revision = .ok body.digest := by
  obtain ⟨_, hcheck, h⟩ := bind_eq_ok.mp h
  obtain ⟨table, htable, hbody⟩ := bind_eq_ok.mp h
  refine ⟨?_, bind_eq_ok.mpr ⟨table, htable, bind_eq_ok.mpr ⟨body, hbody, rfl⟩⟩⟩
  exact validate_eq_ok_iff.mpr ⟨hcheck, table, htable, Table.exists_encode_of_signBody hbody⟩

/-- An operation that fails the checks is refused for the same reason. -/
theorem signBody_of_validate_error {e : WalletError} (h : op.validate context = .error e) :
    op.signBody context = .error e := by
  unfold signBody
  rcases bind_eq_error.mp h with hcheck | ⟨_, hcheck, h⟩
  · exact bind_eq_error.mpr (Or.inl hcheck)
  rcases bind_eq_error.mp h with htable | ⟨table, htable, h⟩
  · exact bind_eq_error.mpr (Or.inr ⟨(), hcheck, bind_eq_error.mpr (Or.inl htable)⟩)
  rcases bind_eq_error.mp h with hlift | ⟨_, _, h⟩
  · obtain ⟨e', hencode, rfl⟩ := lift_eq_error.mp hlift
    have hbody := Table.signBody_of_encode_error hencode
    exact bind_eq_error.mpr (Or.inr ⟨(), hcheck, bind_eq_error.mpr (Or.inr ⟨table, htable, hbody⟩)⟩)
  · cases h

end Operation

/-! ### The signer -/

namespace Signer

variable {signer : Signer} {key : SecretKey} {context : Context} {op : Operation}

/-- **What a signer signs has passed the checks**, only the signature is new, and it verifies under
the signer's key if that is known. -/
theorem signOperation_eq_ok {tx : Tx} (h : signer.signOperation context op = .ok tx) :
    op.validate context = .ok () ∧ (∃ sig, tx = ⟨op, some sig⟩) ∧
      ∀ key, signer.publicKey = some key → Tx.verify context.revision key tx = .ok () := by
  obtain ⟨body, hbody, h⟩ := bind_eq_ok.mp h
  obtain ⟨hvalid, hdigest⟩ := Operation.validate_of_signBody hbody
  obtain ⟨sig, _, h⟩ := bind_eq_ok.mp h
  cases hpublic : signer.publicKey with
  | none =>
      rw [hpublic] at h
      obtain rfl := Except.ok.inj h
      exact ⟨hvalid, ⟨sig, rfl⟩, nofun⟩
  | some key =>
      rw [hpublic] at h
      obtain ⟨_, hcheck, h⟩ := bind_eq_ok.mp h
      obtain rfl := Except.ok.inj h
      refine ⟨hvalid, ⟨sig, rfl⟩, ?_⟩
      rintro _ ⟨rfl⟩
      exact bind_eq_ok.mpr ⟨body.digest, hdigest, hcheck⟩

/-- **A key at hand signs whatever passes the checks**, and the signature verifies under every
context of the same revision. -/
theorem signOperation_ofKey (hkey : key.Consistent) (h : op.validate context = .ok ()) :
    ∃ sig, (ofKey key).signOperation context op = .ok ⟨op, some sig⟩ ∧
      Tx.verify context.revision key.publicKey ⟨op, some sig⟩ = .ok () := by
  obtain ⟨body, hbody, hdigest⟩ := Operation.signBody_of_validate_ok h
  have hverify := lift_crypto_eq_ok.mpr (hkey.verify_sign body.digest.bytes)
  refine ⟨key.sign body.digest.bytes, ?_, ?_⟩
  · exact bind_eq_ok.mpr ⟨body, hbody, bind_eq_ok.mpr ⟨_, rfl, bind_eq_ok.mpr ⟨(), hverify, rfl⟩⟩⟩
  · exact bind_eq_ok.mpr ⟨_, hdigest, hverify⟩

end Signer

/-! ### The assembler -/

namespace Assembler

variable {key : SecretKey} {context : Context} {op : Operation}

theorem sign_eq (signer : Signer) (hkind : op.kind ≠ .atomicMatch) :
    (Assembler.mk context (some signer)).sign op = signer.signOperation context op := by
  unfold sign refuseMatch
  rw [if_neg hkind]
  rfl

/-- What fails the checks is not signed. -/
theorem sign_of_validate_error (signer : Signer) (hkind : op.kind ≠ .atomicMatch) {e : WalletError}
    (h : op.validate context = .error e) :
    (Assembler.mk context (some signer)).sign op = .error e := by
  rw [sign_eq signer hkind]
  exact bind_eq_error.mpr (Or.inl (Operation.signBody_of_validate_error h))

/-- What passes the checks is signed. -/
theorem sign_of_validate_ok (hkey : key.Consistent) (hkind : op.kind ≠ .atomicMatch)
    (h : op.validate context = .ok ()) :
    ∃ sig, (Assembler.mk context (some (Signer.ofKey key))).sign op = .ok ⟨op, some sig⟩ ∧
      Tx.verify context.revision key.publicKey ⟨op, some sig⟩ = .ok () := by
  rw [sign_eq (Signer.ofKey key) hkind]
  exact Signer.signOperation_ofKey hkey h

/-- A transaction that is not signed has no text, and the reason is that of the signer. -/
theorem signJson_eq_error {assembler : Assembler} {e : WalletError}
    (h : assembler.sign op = .error e) : assembler.signJson op = .error e := by
  rw [signJson, h]
  rfl

theorem signJson_eq_ok {assembler : Assembler} {tx : Tx} (h : assembler.sign op = .ok tx) :
    assembler.signJson op = .ok tx.toJson := by
  rw [signJson, h]
  rfl

end Assembler

/-- **Signing with a key at hand, from the seed to the text and back.**  A transaction of any kind
but a match is refused exactly where its checks fail, and for the same reason.  Otherwise the text is
read back as the transaction with the new signature in place of the old one, which verifies in every
context of the same revision, and signing what was read back gives the same text. -/
theorem signJson_spec (seed : String) (hseed : seed ≠ "") :
    ∃ key : SecretKey, SecretKey.ofSeed seed = .ok key ∧
      ∀ (context : Context) (tx : Tx), tx.content.kind ≠ .atomicMatch →
        let assembler : Assembler := ⟨context, some (Signer.ofKey key)⟩
        (∀ e, assembler.signJson tx.content = .error e ↔
          tx.content.validate context = .error e) ∧
        (tx.content.validate context = .ok () →
          ∃ (text : Bytes) (sig : Signature), assembler.signJson tx.content = .ok text ∧
            Tx.ofJson tx.content.kind text = .ok { tx with sig := some sig } ∧
            (∀ later : Context, later.revision = context.revision →
              Tx.verify later.revision key.publicKey { tx with sig := some sig } = .ok ()) ∧
            ∀ parsed : Tx, Tx.ofJson tx.content.kind text = .ok parsed →
              assembler.signJson parsed.content = .ok text) := by
  obtain ⟨key, hofSeed, hkey⟩ := SecretKey.exists_ofSeed_eq_ok hseed
  refine ⟨key, hofSeed, ?_⟩
  intro context tx hkind assembler
  have hok : tx.content.validate context = .ok () →
      ∃ sig, assembler.signJson tx.content = .ok (Tx.toJson ⟨tx.content, some sig⟩) ∧
        Tx.verify context.revision key.publicKey ⟨tx.content, some sig⟩ = .ok () := by
    intro h
    obtain ⟨sig, hsign, hverify⟩ := Assembler.sign_of_validate_ok hkey hkind h
    exact ⟨sig, Assembler.signJson_eq_ok hsign, hverify⟩
  refine ⟨?_, ?_⟩
  · intro e
    constructor
    · intro herror
      -- the text is either refused for the reason of the checks or written
      cases h : tx.content.validate context with
      | error e' =>
          have hsign := Assembler.signJson_eq_error
            (Assembler.sign_of_validate_error (Signer.ofKey key) hkind h)
          exact congrArg Except.error (Except.error.inj (hsign.symm.trans herror))
      | ok =>
          obtain ⟨sig, hsign, _⟩ := hok h
          cases hsign.symm.trans herror
    · intro h
      exact Assembler.signJson_eq_error (Assembler.sign_of_validate_error _ hkind h)
  · intro h
    obtain ⟨sig, hsign, hverify⟩ := hok h
    have hparse := Tx.ofJson_toJson ⟨tx.content, some sig⟩
    refine ⟨_, sig, hsign, hparse, ?_, ?_⟩
    · intro later hrevision
      rw [hrevision]
      exact hverify
    · intro parsed hparsed
      -- what was read back differs from the transaction in its signature only
      rw [← Except.ok.inj (hparse.symm.trans hparsed)]
      exact hsign

/-- A cancellation, signed at one time and verified at a later one. -/
theorem signJson_spec_cancelOffer :
    "wallet" ≠ "" ∧ ∃ key : SecretKey, SecretKey.ofSeed "wallet" = .ok key ∧
      ∃ (text : Bytes) (sig : Signature),
        (Assembler.mk ⟨5, .v2⟩ (some (Signer.ofKey key))).signJson
          (.cancelOffer ⟨1, 2, ⟨0, 0, 7, 9, 3⟩⟩) = .ok text ∧
        Tx.ofJson .cancelOffer text =
          .ok ⟨.cancelOffer ⟨1, 2, ⟨0, 0, 7, 9, 3⟩⟩, some sig⟩ ∧
        Tx.verify .v2 key.publicKey ⟨.cancelOffer ⟨1, 2, ⟨0, 0, 7, 9, 3⟩⟩, some sig⟩ = .ok () := by
  obtain ⟨key, hkey, hspec⟩ := signJson_spec "wallet" (by decide)
  have hvalid : Operation.validate ⟨5, .v2⟩ (.cancelOffer ⟨1, 2, ⟨0, 0, 7, 9, 3⟩⟩) = .ok () := by
    decide +kernel
  obtain ⟨text, sig, hsign, hparse, hverify, _⟩ :=
    (hspec ⟨5, .v2⟩ ⟨.cancelOffer ⟨1, 2, ⟨0, 0, 7, 9, 3⟩⟩, none⟩ (by decide)).2 hvalid
  exact ⟨by decide, key, hkey, text, sig, hsign, hparse, hverify ⟨8, .v2⟩ rfl⟩

end RollupWallet
