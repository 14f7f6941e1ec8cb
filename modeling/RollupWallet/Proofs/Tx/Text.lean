import Mathlib
import RollupWallet.Proofs.Hash.Mimc
import RollupWallet.Proofs.Signing

/-!
# Texts that are hashed on their own

A memo, the name and the introduction of a collection and the attributes of an NFT are too long to be
elements, so each enters its table as the digest of its bytes.  The tables of two operations that
differ in such texts only differ in these digests only, so their elements are the same exactly if the
texts have the same digests, one by one (`Table.encode_eq_iff`).  What is signed is the digest of the
elements in a row (`Table.signBody_eq_ok`).

So what two such operations share comes from what the sponge does not keep of a text, or from chains
that meet, for a text or for the elements (`Operation.exists_signBody_of_texts`).
-/

namespace RollupWallet

open Hash Hash.Mimc Eddsa

/-! ### Fields with bytes of their own -/

namespace Field

/-- The bytes of a field that are hashed on their own. -/
def blob? (field : Field) : Option Bytes :=
  match field.value with
  | .blob bytes => some bytes
  | _ => none

/-- The field with no bytes in place of those that are hashed on their own. -/
def hollow (field : Field) : Field :=
  match field.value with
  | .blob _ => ⟨field.name, .blob []⟩
  | _ => field

theorem eq_or_blob_of_hollow_eq {f g : Field} (h : f.hollow = g.hollow) :
    (f = g ∧ f.blob? = none) ∨ ∃ name a b, f = ⟨name, .blob a⟩ ∧ g = ⟨name, .blob b⟩ := by
  obtain ⟨fname, fvalue⟩ := f
  obtain ⟨gname, gvalue⟩ := g
  cases fvalue with
  | blob a =>
      cases gvalue with
      | blob b =>
          obtain ⟨rfl, _⟩ := Field.mk.inj h
          exact .inr ⟨fname, a, b, rfl, rfl⟩
      | _ => cases h
  | _ =>
      cases gvalue with
      | blob b => cases h
      | _ => exact .inl ⟨h, rfl⟩

end Field

namespace Table

/-- The bytes of a table that are hashed on their own. -/
def blobs (table : Table) : List Bytes := table.filterMap Field.blob?

theorem blobs_cons_of_none {field : Field} {table : Table} (h : field.blob? = none) :
    blobs (field :: table) = table.blobs :=
  List.filterMap_cons_none h

theorem blobs_cons_blob (name : String) (bytes : Bytes) (table : Table) :
    blobs (⟨name, .blob bytes⟩ :: table) = bytes :: table.blobs :=
  rfl

/-- **Tables that differ only in bytes hashed on their own have the same elements exactly if these
bytes have the same digests.** -/
theorem encode_eq_iff {t₁ t₂ : Table} {e₁ e₂ : List Bytes32}
    (hrest : t₁.map Field.hollow = t₂.map Field.hollow) (h₁ : t₁.encode = .ok e₁)
    (h₂ : t₂.encode = .ok e₂) :
    e₁ = e₂ ↔ List.Forall₂ (fun a b => mimc a = mimc b) t₁.blobs t₂.blobs := by
  induction t₁ generalizing t₂ e₁ e₂ with
  | nil =>
      obtain rfl := List.map_eq_nil_iff.mp hrest.symm
      have hsame : e₁ = e₂ := Except.ok.inj (h₁.symm.trans h₂)
      exact ⟨fun _ => .nil, fun _ => hsame⟩
  | cons f t₁ ih =>
      obtain ⟨g, t₂, rfl⟩ := List.exists_cons_of_ne_nil (l := t₂) (by rintro rfl; cases hrest)
      obtain ⟨first₁, rest₁, rfl, hf, hrest₁⟩ := encode_cons_eq_ok h₁
      obtain ⟨first₂, rest₂, rfl, hg, hrest₂⟩ := encode_cons_eq_ok h₂
      obtain ⟨hhead, htail⟩ := List.cons.inj hrest
      rw [List.cons.injEq, ih htail hrest₁ hrest₂]
      rcases Field.eq_or_blob_of_hollow_eq hhead with ⟨rfl, hblob⟩ | ⟨name, a, b, rfl, rfl⟩
      · -- a field without bytes of its own is the same in both tables
        have hfirst : first₁ = first₂ := Except.ok.inj (hf.symm.trans hg)
        rw [blobs_cons_of_none hblob, blobs_cons_of_none hblob]
        exact and_iff_right hfirst
      · obtain rfl := Except.ok.inj hf
        obtain rfl := Except.ok.inj hg
        rw [blobs_cons_blob, blobs_cons_blob]
        exact (List.forall₂_cons (R := fun a b => mimc a = mimc b)).symm

/-- What is signed of a table is the digest of its elements in a row. -/
theorem signBody_eq_ok {table : Table} {body : SignBody} (h : table.signBody = .ok body) :
    table.encode = .ok body.elements ∧ body.digest = mimc body.toBytes := by
  obtain ⟨elements, hencode, h⟩ := bind_eq_ok.mp h
  split at h
  · next sponge hsponge =>
    obtain rfl := Except.ok.inj h
    refine ⟨lift_eq_ok.mp hencode, ?_⟩
    rw [SignBody.toBytes, Sponge.eq_write_of_writeElement? hsponge]
    rfl
  · cases h

end Table

/-! ### The texts of an operation -/

namespace Operation

/-- The bytes of the texts that are hashed on their own. -/
def texts : Operation → List Bytes
  | transfer op => [Text.utf8 op.memo]
  | createCollection op => [Text.utf8 op.name, Text.utf8 op.introduction]
  | mintNft op => [Text.utf8 op.mutableAttributes]
  | _ => []

/-- The operation with its texts left empty. -/
def withoutTexts : Operation → Operation
  | transfer op => transfer { op with memo := "" }
  | createCollection op => createCollection { op with name := "", introduction := "" }
  | mintNft op => mintNft { op with mutableAttributes := "" }
  | op => op

theorem length_texts_withoutTexts (op : Operation) :
    op.withoutTexts.texts.length = op.texts.length := by
  cases op <;> rfl

theorem withoutTexts_eq_self {op : Operation} (h : op.texts = []) : op.withoutTexts = op := by
  cases op with
  | transfer op => cases h
  | createCollection op => cases h
  | mintNft op => cases h
  | _ => rfl

/-- Operations that differ in their texts have texts. -/
theorem texts_ne_nil {op₁ op₂ : Operation} (hne : op₁ ≠ op₂)
    (hrest : op₁.withoutTexts = op₂.withoutTexts) : op₁.texts ≠ [] ∧ op₂.texts ≠ [] := by
  have hlength : op₁.texts.length = op₂.texts.length := by
    rw [← length_texts_withoutTexts, ← length_texts_withoutTexts op₂, hrest]
  have hnil : op₁.texts ≠ [] := by
    intro h₁
    have h₂ : op₂.texts = [] := by rw [← List.length_eq_zero_iff, ← hlength, h₁, List.length_nil]
    rw [withoutTexts_eq_self h₁, withoutTexts_eq_self h₂] at hrest
    exact hne hrest
  refine ⟨hnil, fun h₂ => hnil ?_⟩
  rw [← List.length_eq_zero_iff, hlength, h₂, List.length_nil]

/-- The texts of an operation are the bytes of its table that are hashed on their own, and nothing
else in the table depends on them. -/
theorem exists_table_of_texts {op : Operation} (h : op.texts ≠ []) :
    ∃ table : Table, (∀ revision, op.table revision = .ok table) ∧ table.blobs = op.texts ∧
      ∀ revision, op.withoutTexts.table revision = .ok (table.map Field.hollow) := by
  cases op with
  | transfer op => exact ⟨op.table, fun _ => rfl, rfl, fun _ => rfl⟩
  | createCollection op => exact ⟨op.table, fun _ => rfl, rfl, fun _ => rfl⟩
  | mintNft op => exact ⟨op.table, fun _ => rfl, rfl, fun _ => rfl⟩
  | _ => exact absurd rfl h

theorem exists_signBody_of_table {op : Operation} {context : Context} {table : Table}
    (htable : op.table context.revision = .ok table) (h : op.validate context = .ok ()) :
    ∃ body, op.signBody context = .ok body ∧ op.digest context.revision = .ok body.digest ∧
      table.encode = .ok body.elements ∧ body.digest = mimc body.toBytes := by
  obtain ⟨body, hbody, hdigest⟩ := signBody_of_validate_ok h
  obtain ⟨_, _, hsteps⟩ := bind_eq_ok.mp hbody
  obtain ⟨_, htable', hsigned⟩ := bind_eq_ok.mp hsteps
  obtain rfl := Except.ok.inj (htable.symm.trans htable')
  exact ⟨body, hbody, hdigest, Table.signBody_eq_ok hsigned⟩

theorem elements_ne_nil {op : Operation} {revision : Revision} {table : Table}
    {elements : List Bytes32} (htable : op.table revision = .ok table)
    (hencode : table.encode = .ok elements) : elements ≠ [] := by
  obtain ⟨rest, rfl⟩ := table_eq_cons htable
  obtain ⟨first, rest, rfl, _⟩ := Table.encode_cons_eq_ok hencode
  exact List.cons_ne_nil first rest

/-- **What valid operations share that differ in their texts only.**  Their elements are the same
exactly if each text keeps the same in the sponge or makes its chains meet; the digests of the
elements are the same exactly if the elements are or make their chains meet. -/
theorem exists_signBody_of_texts {op₁ op₂ : Operation} {c₁ c₂ : Context} (hne : op₁ ≠ op₂)
    (hrest : op₁.withoutTexts = op₂.withoutTexts) (h₁ : op₁.validate c₁ = .ok ())
    (h₂ : op₂.validate c₂ = .ok ()) :
    ∃ body₁ body₂, op₁.signBody c₁ = .ok body₁ ∧ op₂.signBody c₂ = .ok body₂ ∧
      (body₁.elements = body₂.elements ↔
        List.Forall₂ (fun s t => SameBlocks s t ∨ Meets 0 (absorbed s) (absorbed t))
          op₁.texts op₂.texts) ∧
      (body₁.digest = body₂.digest ↔
        body₁.elements = body₂.elements ∨
          Meets 0 (absorbed body₁.toBytes) (absorbed body₂.toBytes)) ∧
      (body₁.digest = body₂.digest → ∀ key sig,
        Tx.verify c₁.revision key ⟨op₁, some sig⟩ = Tx.verify c₂.revision key ⟨op₂, some sig⟩) := by
  obtain ⟨htexts₁, htexts₂⟩ := texts_ne_nil hne hrest
  obtain ⟨t₁, ht₁, hblobs₁, hhollow₁⟩ := exists_table_of_texts htexts₁
  obtain ⟨t₂, ht₂, hblobs₂, hhollow₂⟩ := exists_table_of_texts htexts₂
  obtain ⟨body₁, hbody₁, hdigest₁, hencode₁, hmimc₁⟩ := exists_signBody_of_table (ht₁ _) h₁
  obtain ⟨body₂, hbody₂, hdigest₂, hencode₂, hmimc₂⟩ := exists_signBody_of_table (ht₂ _) h₂
  have hhollow : t₁.map Field.hollow = t₂.map Field.hollow := by
    have hsame := (hhollow₁ .v1).symm.trans ((congrArg (table .v1) hrest).trans (hhollow₂ .v1))
    exact Except.ok.inj hsame
  refine ⟨body₁, body₂, hbody₁, hbody₂, ?_, ?_, ?_⟩
  · rw [Table.encode_eq_iff hhollow hencode₁ hencode₂, hblobs₁, hblobs₂]
    simp only [mimc_eq_iff]
  · rw [hmimc₁, hmimc₂]
    exact mimc_flatMap_eq_iff (elements_ne_nil (ht₁ .v1) hencode₁)
      (elements_ne_nil (ht₂ .v1) hencode₂) (Table.isCanonical_of_mem_encode hencode₁)
      (Table.isCanonical_of_mem_encode hencode₂)
  · intro hsame key sig
    simp only [Tx.verify, hdigest₁, hdigest₂, hsame]

end Operation

/-- **What the sponge keeps of a text binds it.**  Bytes are absorbed alike exactly if they have as
many blocks and their blocks are the same numbers modulo the order of the field, so bytes of one
length whose blocks are below the order are absorbed alike only if they are the same.  Two valid
operations that differ in their texts only have the same elements exactly if each text is absorbed
alike or makes its chains meet, and what is signed of them is the same exactly if the elements are or
make their chains meet. -/
theorem texts_bind :
    (∀ a b : Bytes, absorbed a = absorbed b ↔ SameBlocks a b) ∧
    (∀ a b : Bytes, a.length = b.length →
      (∀ i < blockCount a, Bytes.toNat (block i a) < fieldModulus) →
      (∀ i < blockCount b, Bytes.toNat (block i b) < fieldModulus) →
      absorbed a = absorbed b → a = b) ∧
    (∀ a b : Bytes, mimc a = mimc b ↔ SameBlocks a b ∨ Meets 0 (absorbed a) (absorbed b)) ∧
    ∀ (op₁ op₂ : Operation) (c₁ c₂ : Context), op₁ ≠ op₂ →
      op₁.withoutTexts = op₂.withoutTexts → op₁.validate c₁ = .ok () → op₂.validate c₂ = .ok () →
      ∃ body₁ body₂, op₁.signBody c₁ = .ok body₁ ∧ op₂.signBody c₂ = .ok body₂ ∧
        (body₁.elements = body₂.elements ↔
          List.Forall₂ (fun s t => SameBlocks s t ∨ Meets 0 (absorbed s) (absorbed t))
            op₁.texts op₂.texts) ∧
        (body₁.digest = body₂.digest ↔
          body₁.elements = body₂.elements ∨
            Meets 0 (absorbed body₁.toBytes) (absorbed body₂.toBytes)) ∧
        (body₁.digest = body₂.digest → ∀ key sig,
          Tx.verify c₁.revision key ⟨op₁, some sig⟩ =
            Tx.verify c₂.revision key ⟨op₂, some sig⟩) := by
  refine ⟨fun _ _ => absorbed_eq_iff, fun _ _ => eq_of_absorbed_eq, fun _ _ => mimc_eq_iff, ?_⟩
  intro op₁ op₂ c₁ c₂ hne hrest h₁ h₂
  exact Operation.exists_signBody_of_texts hne hrest h₁ h₂

/-- A transfer with a memo. -/
def transferWithMemo (memo : String) : Operation :=
  .transfer ⟨2, 3, .zero, 0, 100, memo, "", .zero, ⟨1, 0, 5000, 9, 3⟩⟩

/-- Two memos of one letter bind, unless steps from different inputs lead to one value. -/
theorem texts_bind_letters :
    let op₁ := transferWithMemo "a"
    let op₂ := transferWithMemo "b"
    op₁ ≠ op₂ ∧ op₁.withoutTexts = op₂.withoutTexts ∧
      op₁.validate ⟨5, .v2⟩ = .ok () ∧ op₂.validate ⟨6, .v2⟩ = .ok () ∧
      ∃ body₁ body₂, op₁.signBody ⟨5, .v2⟩ = .ok body₁ ∧ op₂.signBody ⟨6, .v2⟩ = .ok body₂ ∧
        (body₁.elements = body₂.elements → Meets 0 (absorbed [97]) (absorbed [98])) := by
  intro op₁ op₂
  have hne : op₁ ≠ op₂ := by decide +kernel
  have hrest : op₁.withoutTexts = op₂.withoutTexts := rfl
  have h₁ : op₁.validate ⟨5, .v2⟩ = .ok () := by decide +kernel
  have h₂ : op₂.validate ⟨6, .v2⟩ = .ok () := by decide +kernel
  obtain ⟨body₁, body₂, hbody₁, hbody₂, helements, _⟩ :=
    texts_bind.2.2.2 op₁ op₂ ⟨5, .v2⟩ ⟨6, .v2⟩ hne hrest h₁ h₂
  refine ⟨hne, hrest, h₁, h₂, body₁, body₂, hbody₁, hbody₂, fun hsame => ?_⟩
  have htexts₁ : op₁.texts = [[97]] := by decide +kernel
  have htexts₂ : op₂.texts = [[98]] := by decide +kernel
  have htexts := helements.mp hsame
  rw [htexts₁, htexts₂] at htexts
  rcases (List.forall₂_cons.mp htexts).1 with hblocks | hmeets
  · exact absurd hblocks (by decide)
  · exact hmeets

/-- The empty string and a zero byte are absorbed alike, so what is signed of a transfer with no memo
is also signed of one whose memo is a zero character. -/
theorem absorbed_zero :
    ([] : Bytes) ≠ [0] ∧ absorbed [] = absorbed [0] ∧
      transferWithMemo "" ≠ transferWithMemo "\x00" ∧
      (transferWithMemo "").withoutTexts = (transferWithMemo "\x00").withoutTexts ∧
      (transferWithMemo "").validate ⟨5, .v2⟩ = .ok () ∧
      (transferWithMemo "\x00").validate ⟨5, .v2⟩ = .ok () ∧
      ∃ body, (transferWithMemo "").signBody ⟨5, .v2⟩ = .ok body ∧
        (transferWithMemo "\x00").signBody ⟨5, .v2⟩ = .ok body := by
  have hblocks : SameBlocks [] [0] :=
    @sameBlocks_zeros 0 [] [] rfl (.inr rfl) 1 (by decide)
  have hne : transferWithMemo "" ≠ transferWithMemo "\x00" := by decide +kernel
  have hrest : (transferWithMemo "").withoutTexts = (transferWithMemo "\x00").withoutTexts := rfl
  have h₁ : (transferWithMemo "").validate ⟨5, .v2⟩ = .ok () := by decide +kernel
  have h₂ : (transferWithMemo "\x00").validate ⟨5, .v2⟩ = .ok () := by decide +kernel
  obtain ⟨body₁, body₂, hbody₁, hbody₂, helements, hdigest, _⟩ :=
    Operation.exists_signBody_of_texts hne hrest h₁ h₂
  have htexts₁ : (transferWithMemo "").texts = [[]] := by decide +kernel
  have htexts₂ : (transferWithMemo "\x00").texts = [[0]] := by decide +kernel
  have hsame : body₁.elements = body₂.elements := by
    rw [helements, htexts₁, htexts₂]
    exact .cons (.inl hblocks) .nil
  have hbody : body₁ = body₂ := by
    obtain ⟨elements, digest⟩ := body₁
    obtain ⟨_, _⟩ := body₂
    obtain rfl := hsame
    obtain rfl := hdigest.mpr (.inl rfl)
    rfl
  refine ⟨by decide, absorbed_eq_iff.mpr hblocks, hne, hrest, h₁, h₂, body₁, hbody₁, ?_⟩
  rw [hbody]
  exact hbody₂

end RollupWallet
