import Mathlib
import RollupWallet.Proofs.Error
import RollupWallet.Proofs.Tx.Field
import RollupWallet.Tx.Layout

/-!
# The elements of a table bind the operation

Two operations whose tables have the same elements are of one kind and are hashed alike, field by
field (`table_binds`).

* The first element is the tag of the kind (`Operation.table_eq_cons`), so the kinds are the same.
* The tables of one kind have one outline, names and meanings in their order.  Only the table of an
  offer depends on the revision, and there the revisions differ in the number of fields
  (`Operation.outline_eq`).
* In one outline each element binds its own value (`FieldValue.agrees_of_encode_eq`).
-/

namespace RollupWallet

/-- Two fields have one name and are hashed alike. -/
def Field.Agrees (f g : Field) : Prop := f.name = g.name ∧ f.value.Agrees g.value

/-- The value of a field is in range. -/
def Field.Encodes (field : Field) : Prop := (field.value.encode field.name).isOk = true

instance : DecidablePred Field.Encodes := fun _ => inferInstanceAs (Decidable (_ = _))

theorem Field.encodes_iff {field : Field} :
    field.Encodes ↔ ∃ element, field.value.encode field.name = .ok element := by
  unfold Field.Encodes
  cases field.value.encode field.name with
  | error e => exact ⟨nofun, nofun⟩
  | ok element => exact ⟨fun _ => ⟨element, rfl⟩, fun _ => rfl⟩

namespace Table

/-- The names of a table and the meanings of its values. -/
def outline (table : Table) : List (String × String) :=
  table.map fun field => (field.name, field.value.meaning)

theorem encode_cons_eq_ok {field : Field} {table : Table} {elements : List Bytes32}
    (h : encode (field :: table) = .ok elements) :
    ∃ first rest, elements = first :: rest ∧ field.value.encode field.name = .ok first ∧
      encode table = .ok rest := by
  unfold encode at h ⊢
  rw [List.mapM_cons, bind_eq_ok] at h
  obtain ⟨first, hfirst, h⟩ := h
  obtain ⟨rest, hrest, h⟩ := bind_eq_ok.mp h
  exact ⟨first, rest, (Except.ok.inj h).symm, hfirst, hrest⟩

/-- A table is encoded exactly if each of its fields is. -/
theorem exists_encode_iff {table : Table} :
    (∃ elements, table.encode = .ok elements) ↔ ∀ field ∈ table, field.Encodes := by
  induction table with
  | nil => exact ⟨fun _ => nofun, fun _ => ⟨[], rfl⟩⟩
  | cons field table ih =>
      rw [List.forall_mem_cons, ← ih]
      constructor
      · rintro ⟨elements, h⟩
        obtain ⟨first, rest, _, hfirst, hrest⟩ := encode_cons_eq_ok h
        exact ⟨Field.encodes_iff.mpr ⟨first, hfirst⟩, rest, hrest⟩
      · rintro ⟨hencodes, rest, hrest⟩
        obtain ⟨first, hfirst⟩ := Field.encodes_iff.mp hencodes
        refine ⟨first :: rest, ?_⟩
        unfold encode at hrest ⊢
        rw [List.mapM_cons, hfirst, hrest]
        rfl

/-- A table has as many elements as fields. -/
theorem length_of_encode {table : Table} {elements : List Bytes32}
    (h : table.encode = .ok elements) : elements.length = table.length := by
  induction table generalizing elements with
  | nil =>
      rw [← Except.ok.inj h]
      rfl
  | cons field table ih =>
      obtain ⟨first, rest, rfl, _, hrest⟩ := encode_cons_eq_ok h
      rw [List.length_cons, List.length_cons, ih hrest]

/-- **In one outline the elements bind every value.** -/
theorem agrees_of_encode_eq {t₁ t₂ : Table} (houtline : t₁.outline = t₂.outline)
    {elements : List Bytes32} (h₁ : t₁.encode = .ok elements) (h₂ : t₂.encode = .ok elements) :
    List.Forall₂ Field.Agrees t₁ t₂ := by
  induction t₁ generalizing t₂ elements with
  | nil =>
      cases t₂ with
      | nil => exact List.Forall₂.nil
      | cons g t₂ => cases houtline
  | cons f t₁ ih =>
      cases t₂ with
      | nil => cases houtline
      | cons g t₂ =>
          obtain ⟨first, rest, rfl, hf, hrest₁⟩ := encode_cons_eq_ok h₁
          obtain ⟨_, _, heq, hg, hrest₂⟩ := encode_cons_eq_ok h₂
          obtain ⟨rfl, rfl⟩ := List.cons.inj heq
          obtain ⟨hhead, htail⟩ := List.cons.inj houtline
          obtain ⟨hname, hmeaning⟩ := Prod.mk.inj hhead
          -- the name enters the errors only, but the two encodings must be of one field
          rw [← hname] at hg
          exact List.Forall₂.cons ⟨hname, FieldValue.agrees_of_encode_eq hmeaning hf hg⟩
            (ih htail hrest₁ hrest₂)

end Table

/-! ### The tables of operations -/

/-- The table of a match, given the digests and the signatures of its offers. -/
def AtomicMatch.fields (op : AtomicMatch) (buy sell : Bytes32)
    (buySig sellSig : Eddsa.Signature) : Table :=
  [kindField .atomicMatch,
    ⟨"AccountIndex", .accountIndex op.account⟩,
    ⟨"BuyOffer", .hash buy⟩,
    ⟨"BuyOffer.Sig", .blob buySig.toBytes⟩,
    ⟨"SellOffer", .hash sell⟩,
    ⟨"SellOffer.Sig", .blob sellSig.toBytes⟩] ++
  op.envelope.feeFields ++
  op.envelope.closingFields

theorem Signed.offerSig_eq_ok {offer : Signed Offer} {name : String} {sig : Eddsa.Signature} :
    offer.offerSig name = .ok sig ↔ offer.sig = some sig := by
  unfold offerSig
  cases offer.sig with
  | none => exact ⟨nofun, nofun⟩
  | some other => exact ⟨fun h => congrArg some (Except.ok.inj h), fun h => by cases h; rfl⟩

/-- A match has a table exactly if both offers are signed and have digests. -/
theorem AtomicMatch.table_eq_ok_iff {op : AtomicMatch} {revision : Revision} {table : Table} :
    op.table revision = .ok table ↔
      ∃ buySig sellSig buy sell, op.buy.sig = some buySig ∧ op.sell.sig = some sellSig ∧
        op.buy.content.digest revision = .ok buy ∧ op.sell.content.digest revision = .ok sell ∧
        op.fields buy sell buySig sellSig = table := by
  unfold AtomicMatch.table
  constructor
  · intro h
    obtain ⟨buySig, hbuySig, h⟩ := bind_eq_ok.mp h
    obtain ⟨sellSig, hsellSig, h⟩ := bind_eq_ok.mp h
    obtain ⟨buy, hbuy, h⟩ := bind_eq_ok.mp h
    obtain ⟨sell, hsell, h⟩ := bind_eq_ok.mp h
    exact ⟨buySig, sellSig, buy, sell, Signed.offerSig_eq_ok.mp (lift_eq_ok.mp hbuySig),
      Signed.offerSig_eq_ok.mp (lift_eq_ok.mp hsellSig), hbuy, hsell, Except.ok.inj h⟩
  · rintro ⟨buySig, sellSig, buy, sell, hbuySig, hsellSig, hbuy, hsell, rfl⟩
    refine bind_eq_ok.mpr ⟨buySig, lift_eq_ok.mpr (Signed.offerSig_eq_ok.mpr hbuySig), ?_⟩
    refine bind_eq_ok.mpr ⟨sellSig, lift_eq_ok.mpr (Signed.offerSig_eq_ok.mpr hsellSig), ?_⟩
    exact bind_eq_ok.mpr ⟨buy, hbuy, bind_eq_ok.mpr ⟨sell, hsell, rfl⟩⟩

theorem AtomicMatch.table_eq_ok {op : AtomicMatch} {revision : Revision} {table : Table}
    (h : op.table revision = .ok table) :
    ∃ buy sell buySig sellSig, table = op.fields buy sell buySig sellSig := by
  obtain ⟨buySig, sellSig, buy, sell, _, _, _, _, hfields⟩ := AtomicMatch.table_eq_ok_iff.mp h
  exact ⟨buy, sell, buySig, sellSig, hfields.symm⟩

namespace Operation

variable {op op₁ op₂ : Operation} {r r₁ r₂ : Revision} {t t₁ t₂ : Table}

/-- Every table begins with the kind of its operation. -/
theorem table_eq_cons (h : op.table r = .ok t) : ∃ rest, t = kindField op.kind :: rest := by
  cases op with
  | atomicMatch op =>
      obtain ⟨buy, sell, buySig, sellSig, rfl⟩ := AtomicMatch.table_eq_ok h
      exact ⟨_, rfl⟩
  | offer op =>
      rw [← Except.ok.inj h]
      cases r
      · exact ⟨_, rfl⟩
      · exact ⟨_, rfl⟩
  | _ =>
      rw [← Except.ok.inj h]
      exact ⟨_, rfl⟩

/-- **Tables of one kind and one length have one outline**, and if they are tables of offers, they
belong to one revision. -/
theorem outline_eq (h₁ : op₁.table r₁ = .ok t₁) (h₂ : op₂.table r₂ = .ok t₂)
    (hkind : op₁.kind = op₂.kind) (hlength : t₁.length = t₂.length) :
    t₁.outline = t₂.outline ∧ (op₁.kind = .offer → r₁ = r₂) := by
  -- operations of different kinds are out, and the names and meanings of one kind are fixed
  cases op₁ <;> cases op₂ <;> cases hkind
  case atomicMatch.atomicMatch.refl op₁ op₂ =>
    obtain ⟨_, _, _, _, rfl⟩ := AtomicMatch.table_eq_ok h₁
    obtain ⟨_, _, _, _, rfl⟩ := AtomicMatch.table_eq_ok h₂
    exact ⟨rfl, nofun⟩
  case offer.offer.refl op₁ op₂ =>
    rw [← Except.ok.inj h₁, ← Except.ok.inj h₂] at hlength ⊢
    -- the tables of the two revisions differ in length
    cases r₁ <;> cases r₂
    · exact ⟨rfl, fun _ => rfl⟩
    · exact absurd hlength (by simp [Offer.table, Offer.baseFields, Offer.laterFields])
    · exact absurd hlength (by simp [Offer.table, Offer.baseFields, Offer.laterFields])
    · exact ⟨rfl, fun _ => rfl⟩
  all_goals
    rw [← Except.ok.inj h₁, ← Except.ok.inj h₂]
    exact ⟨rfl, nofun⟩

end Operation

/-- **The elements of a table bind the operation.**  If the tables of two operations, under any two
contexts, have the same elements, the operations are of one kind, offers were hashed under one
revision, and the tables agree field by field. -/
theorem table_binds (op₁ op₂ : Operation) (c₁ c₂ : Context) (t₁ t₂ : Table)
    (elements : List Bytes32) (ht₁ : op₁.table c₁.revision = .ok t₁)
    (ht₂ : op₂.table c₂.revision = .ok t₂) (he₁ : t₁.encode = .ok elements)
    (he₂ : t₂.encode = .ok elements) :
    op₁.kind = op₂.kind ∧ (op₁.kind = .offer → c₁.revision = c₂.revision) ∧
      List.Forall₂ Field.Agrees t₁ t₂ := by
  have hlength : t₁.length = t₂.length := by
    rw [← Table.length_of_encode he₁, Table.length_of_encode he₂]
  have hkind : op₁.kind = op₂.kind := by
    obtain ⟨rest₁, rfl⟩ := Operation.table_eq_cons ht₁
    obtain ⟨rest₂, rfl⟩ := Operation.table_eq_cons ht₂
    obtain ⟨first, _, rfl, hfirst₁, _⟩ := Table.encode_cons_eq_ok he₁
    obtain ⟨_, _, heq, hfirst₂, _⟩ := Table.encode_cons_eq_ok he₂
    rw [← (List.cons.inj heq).1] at hfirst₂
    have hmeaning : (kindField op₁.kind).value.meaning = (kindField op₂.kind).value.meaning := rfl
    exact FieldValue.kind.inj (FieldValue.agrees_of_encode_eq hmeaning hfirst₁ hfirst₂)
  obtain ⟨houtline, hrevision⟩ := Operation.outline_eq ht₁ ht₂ hkind hlength
  exact ⟨hkind, hrevision, Table.agrees_of_encode_eq houtline he₁ he₂⟩

/-- Two fees of which one is rounded to the other when it is packed. -/
theorem table_binds_rounded_fee :
    ∃ t₁ t₂ elements,
      Operation.table .v1 (.cancelOffer ⟨1, 2, ⟨0, 0, 34359738368, 1, 1⟩⟩) = .ok t₁ ∧
      Operation.table .v2 (.cancelOffer ⟨1, 2, ⟨0, 0, 34359738360, 1, 1⟩⟩) = .ok t₂ ∧
      t₁.encode = .ok elements ∧ t₂.encode = .ok elements ∧ t₁ ≠ t₂ ∧
      List.Forall₂ Field.Agrees t₁ t₂ := by
  let op₁ : CancelOffer := ⟨1, 2, ⟨0, 0, 34359738368, 1, 1⟩⟩
  let op₂ : CancelOffer := ⟨1, 2, ⟨0, 0, 34359738360, 1, 1⟩⟩
  have hsame : op₁.table.encode = op₂.table.encode := by decide +kernel
  have hne : op₁.table ≠ op₂.table := by decide +kernel
  have hok : op₁.table.encode.isOk = true := by decide +kernel
  cases he : op₁.table.encode with
  | error e => rw [he] at hok; cases hok
  | ok elements =>
      have he₂ := hsame.symm.trans he
      obtain ⟨_, _, hagrees⟩ := table_binds (.cancelOffer op₁) (.cancelOffer op₂) ⟨0, .v1⟩ ⟨0, .v2⟩
        op₁.table op₂.table elements rfl rfl he he₂
      exact ⟨op₁.table, op₂.table, elements, rfl, rfl, he, he₂, hne, hagrees⟩

end RollupWallet
