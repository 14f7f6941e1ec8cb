import Mathlib
import RollupWallet.Proofs.Json.Record
import RollupWallet.Proofs.Text.Base64
import RollupWallet.Tx.Wire

/-!
# Transactions are read back from their texts

The leaves of the schemas are lawful codecs, the names of each schema are distinct plain words, and
the form in which a schema holds a transaction determines it.  So the codec of every kind of
transaction is lawful, and a transaction is read back from its text (`Tx.ofJson_toJson`), which is
UTF-8 (`Tx.isUtf8_toJson`).
-/

namespace RollupWallet

open Json

/-! ### Leaves -/

namespace Json.Codec

instance : bytes32.Lawful where
  keeps word := (Lawful.keeps word.hex).checked (bytes32OfHex_hex word)

instance : bytes32.NeverNull := ⟨fun _ => nofun⟩

instance : side.Lawful where
  keeps s := by
    have htag : s.tag < 256 := by cases s <;> decide
    refine (keeps_below htag).refine ?_
    rw [OfferSide.ofTag?_tag]

theorem symbol_plain : ∀ n < 64, Literal.IsPlain (Text.Base64.symbol n) := by decide

/-- Base64 needs no escapes. -/
theorem base64_plain (b : Bytes) : ∀ byte ∈ Text.Base64.encode b, Literal.IsPlain byte := by
  intro byte hbyte
  rcases Text.Base64.mem_encode hbyte with rfl | ⟨n, hn, rfl⟩
  · decide
  · exact symbol_plain n hn

instance : signature.Lawful where
  keeps sig := by
    have hplain := base64_plain sig.toBytes
    have hascii : ∀ byte ∈ Text.Base64.encode sig.toBytes, byte < 128 :=
      fun byte hbyte => (hplain byte hbyte).2.2.2
    refine ⟨compact_of_plain hplain, ?_⟩
    show signature.read (.string (Text.Base64.encode sig.toBytes)) = _
    simp only [signature, signatureBytes, read_string (Literal.string?_of_plain hplain), bind,
      Except.bind, Text.utf8_ofAscii hascii, Text.Base64.decode?_encode, pure, Except.pure,
      Eddsa.Signature.ofBytes_toBytes]
    rfl

instance : signature.NeverNull := ⟨fun _ => nofun⟩

instance : address.Lawful := inferInstanceAs (word 20).Lawful

instance : address.NeverNull := inferInstanceAs (word 20).NeverNull

end Json.Codec

instance : sigMember.Lawful := inferInstanceAs (Member.omittable "Sig" .signature).Lawful

instance : layer1SigMember.Lawful := inferInstanceAs (Member.omittable "L1Sig" .bytes).Lawful

/-! ### Schemas -/

instance : Transfer.codec.Lawful :=
  have : LawfulMembers Transfer.schema := by
    unfold Transfer.schema
    infer_instance
  (Codec.lawful_record (by decide)).imap fun _ => rfl

instance : Withdraw.codec.Lawful :=
  have : LawfulMembers Withdraw.schema := by
    unfold Withdraw.schema
    infer_instance
  (Codec.lawful_record (by decide)).imap fun _ => rfl

instance : CreateCollection.codec.Lawful :=
  have : LawfulMembers CreateCollection.schema := by
    unfold CreateCollection.schema
    infer_instance
  (Codec.lawful_record (by decide)).imap fun _ => rfl

instance : MintNft.codec.Lawful :=
  have : LawfulMembers MintNft.schema := by
    unfold MintNft.schema
    infer_instance
  (Codec.lawful_record (by decide)).imap fun _ => rfl

instance : TransferNft.codec.Lawful :=
  have : LawfulMembers TransferNft.schema := by
    unfold TransferNft.schema
    infer_instance
  (Codec.lawful_record (by decide)).imap fun _ => rfl

instance : WithdrawNft.codec.Lawful :=
  have : LawfulMembers WithdrawNft.schema := by
    unfold WithdrawNft.schema
    infer_instance
  (Codec.lawful_record (by decide)).imap fun _ => rfl

instance : Offer.codec.Lawful :=
  have : LawfulMembers Offer.schema := by
    unfold Offer.schema
    infer_instance
  (Codec.lawful_record (by decide)).imap fun _ => rfl

instance : AtomicMatch.codec.Lawful :=
  have : LawfulMembers AtomicMatch.schema := by
    unfold AtomicMatch.schema
    infer_instance
  (Codec.lawful_record (by decide)).imap fun _ => rfl

instance : CancelOffer.codec.Lawful :=
  have : LawfulMembers CancelOffer.schema := by
    unfold CancelOffer.schema
    infer_instance
  (Codec.lawful_record (by decide)).imap fun _ => rfl

instance : ChangePubKey.codec.Lawful :=
  have : LawfulMembers ChangePubKey.schema := by
    unfold ChangePubKey.schema
    infer_instance
  (Codec.lawful_record (by decide)).imap fun _ => rfl

instance : UpdateNft.codec.Lawful :=
  have : LawfulMembers UpdateNft.schema := by
    unfold UpdateNft.schema
    infer_instance
  (Codec.lawful_record (by decide)).imap fun _ => rfl

/-! ### Transactions -/

/-- **A transaction is read back from its text.** -/
theorem Tx.ofJson_toJson (tx : Tx) : Tx.ofJson tx.content.kind tx.toJson = .ok tx := by
  obtain ⟨op, sig⟩ := tx
  cases op
  all_goals
    simp only [Operation.kind, ofJson, toJson, tree, Codec.ofText_text]
    rfl

/-- The text of a transaction is UTF-8. -/
theorem Tx.isUtf8_toJson (tx : Tx) : Text.IsUtf8 tx.toJson := by
  obtain ⟨op, sig⟩ := tx
  cases op
  all_goals exact Codec.isUtf8_text _ _

end RollupWallet
