import Mathlib
import RollupWallet.Proofs.Tx.Hashable
import RollupWallet.Proofs.Tx.Text

/-!
# Checking and signing agree

An operation is checked by encoding its table, and signed by encoding its table and absorbing the
elements one by one.  The second step never refuses anything, because every element of a table is one
that the sponge takes.  Hence checking an operation and signing it succeed together, and they fail
together with the same error (`Operation.validate_eq_error_iff`).

Two errors stand for what cannot happen: a packed amount that is no element, and an element that the
sponge refuses (`WalletError.IsInternal`).  No rule reports them (`Operation.check_failsWith`).  A
table is refused only for a number out of its range or a word that is no element
(`Table.encode_failsWith`), and signing it adds nothing (`Table.signBody_failsWith`).  So neither
checking nor signing an operation ends in one of them, nor does its digest, nor the digests that a
match takes of its offers.
-/

namespace RollupWallet

/-- The errors that stand for what cannot happen. -/
def WalletError.IsInternal : WalletError → Prop
  | .invalidInput error => error.reason = .packedNotCanonical
  | .crypto error => error = .invalidField
  | _ => False

/-! ### The errors of the rules -/

section Rules

variable {P : InvalidInput → Prop}

theorem require_failsWith {condition : Bool} {field : String} {reason : Reason}
    (h : P ⟨field, reason⟩) : FailsWith P (require condition field reason) :=
  .ite h

theorem Signed.offerSig_failsWith {offer : Signed Offer} {name : String}
    (h : P ⟨name, .unsignedOffer⟩) : FailsWith P (offer.offerSig name) := by
  unfold offerSig
  split
  · exact .of_ok _
  · exact FailsWith.error_iff.mpr h

theorem Eddsa.PublicKey.ofCoordinates_failsWith (x y : Bytes32) :
    FailsWith (· ≠ .invalidField) (ofCoordinates x y) := by
  unfold ofCoordinates
  split
  · exact .of_ok _
  · exact FailsWith.error_iff.mpr nofun

theorem Layer1.recover_failsWith (message signature : Bytes) :
    FailsWith (· ≠ .invalidField) (recover message signature) := by
  unfold recover
  -- the length, the two numbers, the last byte and the half in which the second number lies
  refine .guard nofun (.guard nofun (.guard nofun (.guard nofun ?_)))
  split
  · exact .of_pure _
  · exact FailsWith.throw_iff.mpr nofun

theorem Offer.check_failsWith (context : Context) (op : Offer) :
    FailsWith (·.reason ≠ .packedNotCanonical) (op.check context) := by
  simp [check, Rules.notExpired, Rules.rateSum, FailsWith.bind_iff, require_failsWith]

theorem AtomicMatch.check_failsWith (context : Context) (op : AtomicMatch) :
    FailsWith (·.reason ≠ .packedNotCanonical) (op.check context) := by
  simp [check, checkOfferPair, Rules.notExpired, FailsWith.bind_iff, require_failsWith,
    Offer.check_failsWith, Signed.offerSig_failsWith]

theorem ChangePubKey.check_failsWith (context : Context) (op : ChangePubKey) :
    FailsWith (¬ ·.IsInternal) (op.check context) := by
  have hexpiry : FailsWith (¬ WalletError.IsInternal ·)
      (liftM (Rules.notExpired context op.envelope.expiredAt)) := .lift (require_failsWith nofun)
  refine .bind (.lift_crypto (Eddsa.PublicKey.ofCoordinates_failsWith _ _)) fun _ => ?_
  split
  · exact hexpiry
  · exact .bind (.lift_crypto (Layer1.recover_failsWith _ _)) fun _ => .guard nofun hexpiry

/-- No rule reports what cannot happen. -/
theorem Operation.check_failsWith (context : Context) (op : Operation) :
    FailsWith (¬ ·.IsInternal) (op.check context) := by
  cases op with
  | changePubKey op => exact op.check_failsWith context
  | atomicMatch op => exact .lift (op.check_failsWith context)
  | offer op => exact .lift (op.check_failsWith context)
  | _ =>
      -- the rules of the other kinds are steps that report a rule of their own each
      refine .lift ?_
      simp [Transfer.check, Withdraw.check, CreateCollection.check, MintNft.check,
        TransferNft.check, WithdrawNft.check, CancelOffer.check, Rules.distinctAccounts,
        Rules.layer1Receiver, Rules.maxBytes, Rules.characterCount, Rules.callData,
        Rules.notExpired, FailsWith.bind_iff, require_failsWith, WalletError.IsInternal]

end Rules

/-! ### The errors of tables -/

/-- The reasons that report a number out of its range. -/
def Reason.IsRange : Reason → Prop
  | .negative _ | .tooWide _ _ | .rateOutOfRange _ _ | .notPackable _ => True
  | _ => False

/-- How a value is refused: as a number out of its range, or as a word that is no element. -/
def FieldValue.Refuses (value : FieldValue) (error : InvalidInput) : Prop :=
  error.reason.IsRange ∨ error.reason = .notCanonical ∧ ∃ word, value = .hash word ∧ ¬ IsElement word

namespace FieldValue

theorem Refuses.reason_ne {value : FieldValue} {error : InvalidInput} (h : value.Refuses error) :
    error.reason ≠ .packedNotCanonical := by
  intro heq
  rcases h with hrange | ⟨hreason, -⟩
  · rw [heq] at hrange
    exact hrange
  · cases hreason.symm.trans heq

theorem nonNegative_failsWith (name : String) (value : Int64) :
    FailsWith (·.reason.IsRange) (nonNegative name value) := by
  unfold nonNegative
  split
  · exact FailsWith.error_iff.mpr trivial
  · exact .of_ok _

theorem bounded_failsWith (bits : ℕ) (name : String) (value : Int64) :
    FailsWith (·.reason.IsRange) (bounded bits name value) := by
  refine .bind (nonNegative_failsWith name value) fun _ => ?_
  split
  · exact FailsWith.throw_iff.mpr trivial
  · exact .of_pure _

/-- An amount that can be packed is encoded, so only the packing fails. -/
theorem encode_amount_failsWith (name : String) (value : ℕ) :
    FailsWith (·.reason.IsRange) ((amount value).encode name) := by
  cases hpacked : PackedAmount.ofNat? value with
  | some packed =>
      rw [encode_amount_of_packs name hpacked]
      exact .of_ok _
  | none =>
      have hpack : PackedAmount.pack name value = .error ⟨name, .notPackable value⟩ := by
        rw [PackedAmount.pack, hpacked]
      rw [encode, hpack]
      exact FailsWith.error_iff.mpr trivial

/-- **A value is refused only as a number out of its range or as a word that is no element.** -/
theorem encode_failsWith (name : String) (value : FieldValue) :
    FailsWith value.Refuses (value.encode name) := by
  cases value with
  | accountIndex value => exact (bounded_failsWith 32 name value).mono fun _ => .inl
  | assetId value => exact (bounded_failsWith 16 name value).mono fun _ => .inl
  | nftIndex value => exact (bounded_failsWith 40 name value).mono fun _ => .inl
  | offerId value => exact (bounded_failsWith 24 name value).mono fun _ => .inl
  | collectionId value => exact (bounded_failsWith 16 name value).mono fun _ => .inl
  | counter value => exact ((nonNegative_failsWith name value).mono fun _ => .inl).map
  | rate value =>
      rw [encode]
      exact .ite (.inl trivial)
  | amount value => exact (encode_amount_failsWith name value).mono fun _ => .inl
  | hash word =>
      rw [encode]
      split
      · exact .of_ok _
      · next hcanonical =>
        have hword : ¬ IsElement word := fun h => hcanonical (isCanonical_eq_true_iff.mpr h)
        exact FailsWith.error_iff.mpr (.inr ⟨rfl, word, rfl, hword⟩)
  -- the others have no range to leave
  | kind value => exact .of_ok _
  | flag value => exact .of_ok _
  | address value => exact .of_ok _
  | blob value => exact .of_ok _

end FieldValue

namespace Table

theorem encode_failsWith (table : Table) :
    FailsWith (fun error => ∃ field ∈ table, field.value.Refuses error) table.encode :=
  .mapM fun field hfield =>
    (field.value.encode_failsWith field.name).mono fun _ hrefuses => ⟨field, hfield, hrefuses⟩

/-- Signing a table fails only where encoding it does. -/
theorem signBody_failsWith (table : Table) : FailsWith (¬ ·.IsInternal) table.signBody := by
  cases hencode : table.encode with
  | error e =>
      obtain ⟨_, -, hrefuses⟩ := encode_failsWith table e hencode
      rw [signBody_of_encode_error hencode]
      exact FailsWith.error_iff.mpr hrefuses.reason_ne
  | ok elements =>
      obtain ⟨body, hbody⟩ := exists_signBody hencode
      rw [hbody]
      exact .of_ok body

end Table

theorem Offer.digest_failsWith (revision : Revision) (op : Offer) :
    FailsWith (¬ ·.IsInternal) (op.digest revision) :=
  (Table.signBody_failsWith _).map

theorem AtomicMatch.table_failsWith (revision : Revision) (op : AtomicMatch) :
    FailsWith (¬ ·.IsInternal) (op.table revision) := by
  refine .bind (.lift (Signed.offerSig_failsWith nofun)) fun _ => ?_
  refine .bind (.lift (Signed.offerSig_failsWith nofun)) fun _ => ?_
  refine .bind (op.buy.content.digest_failsWith revision) fun _ => ?_
  exact .bind (op.sell.content.digest_failsWith revision) fun _ => .of_pure _

/-! ### Checking and signing -/

namespace Operation

variable {op : Operation} {context : Context}

theorem table_failsWith (revision : Revision) (op : Operation) :
    FailsWith (¬ ·.IsInternal) (op.table revision) := by
  cases op with
  | atomicMatch op => exact op.table_failsWith revision
  | _ => exact .of_ok _

theorem signBody_failsWith (context : Context) (op : Operation) :
    FailsWith (¬ ·.IsInternal) (op.signBody context) :=
  .bind (op.check_failsWith context) fun _ =>
    .bind (op.table_failsWith context.revision) Table.signBody_failsWith

theorem digest_failsWith (revision : Revision) (op : Operation) :
    FailsWith (¬ ·.IsInternal) (op.digest revision) :=
  .bind (op.table_failsWith revision) fun table =>
    .bind table.signBody_failsWith fun _ => .of_pure _

theorem validate_eq_ok_iff_signBody :
    op.validate context = .ok () ↔ ∃ body, op.signBody context = .ok body := by
  constructor
  · intro h
    obtain ⟨body, hbody, _⟩ := signBody_of_validate_ok h
    exact ⟨body, hbody⟩
  · rintro ⟨body, hbody⟩
    exact (validate_of_signBody hbody).1

/-- **Checking and signing fail together, with the same error.** -/
theorem validate_eq_error_iff {e : WalletError} :
    op.validate context = .error e ↔ op.signBody context = .error e := by
  refine ⟨signBody_of_validate_error, fun h => ?_⟩
  cases hvalid : op.validate context with
  | error e' =>
      have hsame := (signBody_of_validate_error hvalid).symm.trans h
      exact congrArg Except.error (Except.error.inj hsame)
  | ok =>
      obtain ⟨body, hbody⟩ := validate_eq_ok_iff_signBody.mp hvalid
      cases hbody.symm.trans h

/-- What is signed of an operation are elements, and their digest is that of the operation and of the
elements in a row. -/
theorem signBody_eq_ok {body : SignBody} (h : op.signBody context = .ok body) :
    (∀ element ∈ body.elements, IsElement element) ∧
      op.digest context.revision = .ok body.digest ∧ body.digest = Hash.mimc body.toBytes := by
  obtain ⟨_, hdigest⟩ := validate_of_signBody h
  obtain ⟨_, _, h⟩ := bind_eq_ok.mp h
  obtain ⟨table, _, hbody⟩ := bind_eq_ok.mp h
  obtain ⟨hencode, hmimc⟩ := Table.signBody_eq_ok hbody
  refine ⟨fun element helement => ?_, hdigest, hmimc⟩
  exact isCanonical_eq_true_iff.mp (Table.isCanonical_of_mem_encode hencode element helement)

end Operation

/-- **Checking and signing agree.**  An operation is signed exactly if it is valid, and otherwise both
report the same error.  What is signed are elements, whose digest is both that of the operation and
that of their bytes in a row.  The errors that stand for what cannot happen are never reported. -/
theorem validate_agrees_signBody (context : Context) (op : Operation) :
    (op.validate context = .ok () ↔ ∃ body, op.signBody context = .ok body) ∧
    (∀ e, op.validate context = .error e ↔ op.signBody context = .error e) ∧
    (∀ body, op.signBody context = .ok body →
      (∀ element ∈ body.elements, IsElement element) ∧
        op.digest context.revision = .ok body.digest ∧ body.digest = Hash.mimc body.toBytes) ∧
    ∀ e, op.validate context = .error e ∨ op.signBody context = .error e ∨
      op.digest context.revision = .error e → ¬ e.IsInternal := by
  refine ⟨Operation.validate_eq_ok_iff_signBody, fun e => Operation.validate_eq_error_iff,
    fun body => Operation.signBody_eq_ok, ?_⟩
  rintro e (h | h | h)
  · exact op.signBody_failsWith context e (Operation.validate_eq_error_iff.mp h)
  · exact op.signBody_failsWith context e h
  · exact op.digest_failsWith context.revision e h

/-- A transfer before and after its expiry. -/
theorem validate_agrees_signBody_transfer :
    (∃ body, (transferWithMemo "a").signBody ⟨5, .v2⟩ = .ok body ∧
      (∀ element ∈ body.elements, IsElement element) ∧
      (transferWithMemo "a").digest .v2 = .ok body.digest ∧
      body.digest = Hash.mimc body.toBytes) ∧
    (transferWithMemo "a").validate ⟨9, .v2⟩ =
      .error (.invalidInput ⟨"ExpiredAt", .expired 9 9⟩) ∧
    (transferWithMemo "a").signBody ⟨9, .v2⟩ =
      .error (.invalidInput ⟨"ExpiredAt", .expired 9 9⟩) ∧
    ¬ (WalletError.invalidInput ⟨"ExpiredAt", .expired 9 9⟩).IsInternal := by
  have hvalid : (transferWithMemo "a").validate ⟨5, .v2⟩ = .ok () := by decide +kernel
  have hexpired : (transferWithMemo "a").validate ⟨9, .v2⟩ =
      .error (.invalidInput ⟨"ExpiredAt", .expired 9 9⟩) := by decide +kernel
  obtain ⟨hiff, _, hbody, _⟩ := validate_agrees_signBody ⟨5, .v2⟩ (transferWithMemo "a")
  obtain ⟨_, herror, _, hinternal⟩ := validate_agrees_signBody ⟨9, .v2⟩ (transferWithMemo "a")
  obtain ⟨body, hsigned⟩ := hiff.mp hvalid
  exact ⟨⟨body, hsigned, hbody body hsigned⟩, hexpired, (herror _).mp hexpired,
    hinternal _ (.inl hexpired)⟩

end RollupWallet
