import Mathlib
import RollupWallet.Proofs.Error
import RollupWallet.Proofs.Tx.Wire
import RollupWallet.Signing

/-!
# Kinds are told apart on the wire

A text does not say of which kind it is, and members of unknown names are skipped.  So what keeps a
mint from being read as a withdrawal is only that of any two schemas each has a member without a
default that the other one does not have.  For the eleven schemas that is a finite check
(`TxKind.lacks_of_ne`); that a missing member is enough for a refusal is a property of reading
(`Lacks.read_write_ne_ok`), and it needs no look at the codecs.

One member is often all there is: a cancellation has only `OfferId` that an opening of a collection,
a withdrawal of an NFT, a match and a change of key do not have, and an update of an NFT has only
`MutableAttributes` that a withdrawal of an NFT does not have.
-/

namespace RollupWallet

open Json

/-! ### One schema for each kind -/

namespace TxKind

/-- The members of the texts of a kind.  Kinds that have no texts have none. -/
def schema : TxKind → List Member
  | changePubKey => ChangePubKey.schema
  | transfer => Transfer.schema
  | withdraw => Withdraw.schema
  | createCollection => CreateCollection.schema
  | mintNft => MintNft.schema
  | transferNft => TransferNft.schema
  | atomicMatch => AtomicMatch.schema
  | cancelOffer => CancelOffer.schema
  | withdrawNft => WithdrawNft.schema
  | offer => Offer.schema
  | updateNft => UpdateNft.schema
  | empty | deposit | depositNft | fullExit | fullExitNft => []

/-- Whether a kind has texts: the signed kinds have, and the update of an NFT. -/
def isWritten (kind : TxKind) : Bool := kind.isSigned || kind = updateNft

theorem isWritten_of_isSigned {kind : TxKind} (h : kind.isSigned = true) :
    kind.isWritten = true := by
  rw [isWritten, h, Bool.true_or]

theorem wellNamed_schema (kind : TxKind) : WellNamed kind.schema := by
  cases kind <;> decide

theorem mem_all (kind : TxKind) : kind ∈ all := by
  cases kind <;> decide

/-- **Every schema lacks a member that another one wants.** -/
theorem lacks_of_ne {reader writer : TxKind} (hreader : reader.isWritten = true)
    (hwriter : writer.isWritten = true) (hne : reader ≠ writer) :
    Lacks reader.schema writer.schema := by
  have hpairs : ∀ reader ∈ all, ∀ writer ∈ all, reader.isWritten = true → writer.isWritten = true →
      reader ≠ writer → Lacks reader.schema writer.schema := by
    decide +kernel
  exact hpairs reader reader.mem_all writer writer.mem_all hreader hwriter hne

end TxKind

/-! ### Texts by their schemas -/

/-- A text that is read as a transaction of a kind is read by the schema of the kind. -/
theorem Tx.exists_ofText_of_ofJson {kind : TxKind} {text : Bytes} {tx : Tx}
    (h : Tx.ofJson kind text = .ok tx) :
    kind.isSigned = true ∧ ∃ values, (Codec.record kind.schema).ofText text = .ok values := by
  cases kind
  case empty | deposit | depositNft | fullExit | fullExitNft | updateNft => cases h
  all_goals
    obtain ⟨signed, hsigned, -⟩ := bind_eq_ok.mp h
    exact ⟨rfl, Codec.exists_ofText_of_imap (lift_json_eq_ok.mp hsigned)⟩

/-- A tree is what a kind writes by its schema. -/
structure TxKind.Writes (kind : TxKind) (tree : Json) : Prop where
  isWritten : kind.isWritten = true
  compact : Compact tree
  exists_write : ∃ values, tree = (Codec.record kind.schema).write values

theorem Tx.writes (tx : Tx) : tx.content.kind.Writes tx.tree where
  isWritten := TxKind.isWritten_of_isSigned tx.content.isSigned_kind
  compact := by
    obtain ⟨op, sig⟩ := tx
    cases op <;> exact (Codec.Lawful.keeps _).compact
  exists_write := by
    obtain ⟨op, sig⟩ := tx
    cases op <;> exact ⟨_, rfl⟩

theorem UpdateNft.writes (op : UpdateNft) : TxKind.updateNft.Writes (UpdateNft.codec.write op) :=
  ⟨rfl, (Codec.Lawful.keeps op).compact, ⟨_, rfl⟩⟩

/-! ### Texts of another kind -/

/-- **A text is read by the schema of the kind that wrote it, and by no other.** -/
theorem TxKind.Writes.eq_of_ofText {reader writer : TxKind} {tree : Json} (h : writer.Writes tree)
    (hreader : reader.isWritten = true) {others : Record reader.schema}
    (hread : (Codec.record reader.schema).ofText tree.text = .ok others) : reader = writer := by
  by_contra hne
  obtain ⟨values, htree⟩ := h.exists_write
  rw [Codec.ofText_of_compact _ h.compact, htree] at hread
  have hlacks := lacks_of_ne hreader h.isWritten hne
  exact hlacks.read_write_ne_ok writer.wellNamed_schema values others hread

/-- **No text is taken for one of another kind.**  A transaction is read from its text by its own
kind and by no other, no signed kind takes the text of an update of an NFT, and the text of no
transaction is taken for such an update. -/
theorem kinds_apart :
    (∀ (tx : Tx) (kind : TxKind),
        (∃ other, Tx.ofJson kind tx.toJson = .ok other) ↔ kind = tx.content.kind) ∧
      (∀ (op : UpdateNft) (text : Bytes), op.encode = .ok text →
        ∀ kind, ¬ ∃ tx, Tx.ofJson kind text = .ok tx) ∧
      ∀ tx : Tx, ¬ ∃ op, UpdateNft.codec.ofText tx.toJson = .ok op := by
  have hunsigned : TxKind.updateNft.isSigned = false := rfl
  refine ⟨fun tx kind => ⟨?_, ?_⟩, ?_, ?_⟩
  · rintro ⟨other, hother⟩
    obtain ⟨hsigned, values, hvalues⟩ := Tx.exists_ofText_of_ofJson hother
    exact tx.writes.eq_of_ofText (TxKind.isWritten_of_isSigned hsigned) hvalues
  · rintro rfl
    exact ⟨tx, tx.ofJson_toJson⟩
  · rintro op text hencode kind ⟨tx, htx⟩
    obtain ⟨-, -, htext⟩ := bind_eq_ok.mp hencode
    obtain ⟨hsigned, values, hvalues⟩ := Tx.exists_ofText_of_ofJson htx
    rw [← Except.ok.inj htext] at hvalues
    obtain rfl := op.writes.eq_of_ofText (TxKind.isWritten_of_isSigned hsigned) hvalues
    cases hunsigned.symm.trans hsigned
  · rintro tx ⟨op, hop⟩
    obtain ⟨values, hvalues⟩ := Codec.exists_ofText_of_imap hop
    have heq : TxKind.updateNft = tx.content.kind := tx.writes.eq_of_ofText rfl hvalues
    cases hunsigned.symm.trans (heq ▸ tx.content.isSigned_kind)

/-- A withdrawal of an NFT and an update of the same NFT, which differ in all but three names. -/
theorem kinds_apart_update :
    let update : UpdateNft := ⟨7, "[]", 5, 1⟩
    let withdrawal : Tx := ⟨.withdrawNft ⟨5, 7, .ofNat 20 1, ⟨1, 0, 100, 1700000000, 1⟩⟩, none⟩
    update.encode = .ok (UpdateNft.codec.toText update) ∧
      (¬ ∃ tx, Tx.ofJson .withdrawNft (UpdateNft.codec.toText update) = .ok tx) ∧
      ¬ ∃ op, UpdateNft.codec.ofText withdrawal.toJson = .ok op := by
  intro update withdrawal
  have hencode : update.encode = .ok (UpdateNft.codec.toText update) := by decide +kernel
  exact ⟨hencode, kinds_apart.2.1 update _ hencode .withdrawNft, kinds_apart.2.2 withdrawal⟩

end RollupWallet
