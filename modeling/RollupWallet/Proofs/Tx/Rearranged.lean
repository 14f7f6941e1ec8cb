import Mathlib
import RollupWallet.Proofs.Json.RecordLayout
import RollupWallet.Proofs.Tx.KindsApart

/-!
# Transactions in another layout

The leaves of the schemas are steady codecs, an offer is a record of them without words, and the
only word in a schema is its address (`TxKind.wordsNamed_schema`).  So the layout of a text does not
matter for any kind (`Tx.ofJson_of_rearranged`).  A text in another layout is read as the same
transaction, so it has the same digest and is verified with the same result.
-/

namespace RollupWallet

open Json

/-! ### Steady leaves and schemas -/

namespace Json.Codec

instance : bytes32.Steady := Steady.checked inferInstance _ _

instance : side.Steady := Steady.refine inferInstance _ _

instance : address.Steady := inferInstanceAs (word 20).Steady

theorem signatureBytes_of_bare {tree tree' : Json} (h : tree.bare = tree'.bare) {bytes : Bytes}
    (hread : signatureBytes tree = .ok bytes) : signatureBytes tree' = .ok bytes := by
  cases tree with
  | array own items =>
      obtain ⟨own', items', rfl, hitems⟩ := exists_array_of_bare h
      exact bytesOfItems_of_bare hitems hread
  | object own found => cases hread
  | _ => rwa [eq_of_bare h rfl]

instance : signature.Steady :=
  .of_bare nofun nofun fun h hread => by
    obtain ⟨bytes, hbytes, hsig⟩ := bind_eq_ok.mp hread
    exact bind_eq_ok.mpr ⟨bytes, signatureBytes_of_bare h hbytes, hsig⟩

end Json.Codec

instance : sigMember.Steady := inferInstanceAs (Member.omittable "Sig" .signature).Steady

instance : layer1SigMember.Steady := inferInstanceAs (Member.omittable "L1Sig" .bytes).Steady

theorem Offer.wordless_schema : ∀ member ∈ Offer.schema, member.codec.shape.Wordless := by
  simp only [Offer.schema, List.forall_mem_cons, List.not_mem_nil, IsEmpty.forall_iff,
    implies_true, and_true]
  and_intros
  all_goals exact .any

theorem Offer.wordless_codec : Offer.codec.shape.Wordless := by
  refine .record fun field hfield => ?_
  obtain ⟨member, hmember, rfl⟩ := List.mem_map.mp hfield
  exact wordless_schema member hmember

instance : SteadyMembers Offer.schema := by
  unfold Offer.schema
  infer_instance

instance : Offer.codec.Steady := (Codec.steady_record Offer.wordless_schema).imap _ _

namespace TxKind

/-- The members of all kinds are steady. -/
instance (kind : TxKind) : SteadyMembers kind.schema := by
  cases kind
  all_goals
    simp only [schema, ChangePubKey.schema, Transfer.schema, Withdraw.schema,
      CreateCollection.schema, MintNft.schema, TransferNft.schema, AtomicMatch.schema,
      CancelOffer.schema, WithdrawNft.schema, Offer.schema, UpdateNft.schema]
    infer_instance

/-- The name of the address among the members of a kind, if there is one. -/
def addressName : TxKind → String
  | changePubKey => "L1Address"
  | _ => "ToAddress"

/-- Only addresses are words. -/
theorem wordsNamed_schema (kind : TxKind) : WordsNamed kind.addressName kind.schema := by
  unfold WordsNamed
  cases kind
  all_goals
    simp only [schema, ChangePubKey.schema, Transfer.schema, Withdraw.schema,
      CreateCollection.schema, MintNft.schema, TransferNft.schema, AtomicMatch.schema,
      CancelOffer.schema, WithdrawNft.schema, Offer.schema, UpdateNft.schema,
      List.forall_mem_cons, List.not_mem_nil, IsEmpty.forall_iff, implies_true, and_true]
  all_goals and_intros
  all_goals first
    | exact Or.inl .any
    | exact Or.inl Offer.wordless_codec
    | exact Or.inr ⟨rfl, 19, rfl⟩

end TxKind

/-! ### Whole texts -/

/-- A transaction of a kind is read by the codec of its kind. -/
theorem ofText_imap_map_eq_ok_iff {α β : Type} {codec : Codec α} {decode : α → Signed β}
    {encode : Signed β → α} {operation : β → Operation} {text : Bytes} {tx : Tx} :
    ((liftM ((codec.imap decode encode).ofText text) : Except WalletError (Signed β)) >>=
        fun signed => pure (signed.map operation)) = .ok tx ↔
      ∃ values, codec.ofText text = .ok values ∧ (decode values).map operation = tx := by
  rw [Codec.ofText_imap, bind_eq_ok]
  constructor
  · rintro ⟨signed, hsigned, htx⟩
    obtain ⟨values, hvalues, rfl⟩ := map_eq_ok.mp (lift_json_eq_ok.mp hsigned)
    exact ⟨values, hvalues, Except.ok.inj htx⟩
  · rintro ⟨values, hvalues, rfl⟩
    exact ⟨_, lift_json_eq_ok.mpr (map_eq_ok.mpr ⟨values, hvalues, rfl⟩), rfl⟩

/-- A transaction is made of what the schema of its kind reads. -/
theorem Tx.exists_ofJson_eq {kind : TxKind} (hsigned : kind.isSigned = true) :
    ∃ make : Record kind.schema → Tx, ∀ text tx, Tx.ofJson kind text = .ok tx ↔
      ∃ values, (Codec.record kind.schema).ofText text = .ok values ∧ make values = tx := by
  cases kind
  case empty | deposit | depositNft | fullExit | fullExitNft | updateNft => cases hsigned
  all_goals exact ⟨_, fun text tx => ofText_imap_map_eq_ok_iff⟩

/-- **The layout of a text does not matter.**  A text of an object that is read as a transaction is
read as the same one if the members of the object, or of an offer in it, are put in another order,
if members of names that the object does not have are added, whatever they hold, and if blanks are
put between the tokens. -/
theorem Tx.ofJson_of_rearranged {kind : TxKind} {text text' own own' : Bytes}
    {found found' : List (Bytes × Json)} (htext : Json.ofText? text = some (.object own found))
    (htext' : Json.ofText? text' = some (.object own' found'))
    (h : Rearranged (Codec.record kind.schema).shape (.object own found) (.object own' found'))
    {tx : Tx} (hread : Tx.ofJson kind text = .ok tx) : Tx.ofJson kind text' = .ok tx := by
  obtain ⟨hlaid, hspaced⟩ := ofText?_eq_some_iff.mp htext
  obtain ⟨hlaid', hspaced'⟩ := ofText?_eq_some_iff.mp htext'
  obtain ⟨hsigned, -⟩ := Tx.exists_ofText_of_ofJson hread
  obtain ⟨make, hmake⟩ := Tx.exists_ofJson_eq hsigned
  obtain ⟨values, hvalues, rfl⟩ := (hmake text tx).mp hread
  refine (hmake text' _).mpr ⟨values, ?_, rfl⟩
  exact Codec.ofText_of_rearranged SteadyMembers.steady kind.wordsNamed_schema hlaid hlaid' hspaced
    hspaced' h hvalues

/-- A match whose text is turned round, with a member of another name in front and with blanks, and
so is in it the text of the buy offer. -/
theorem Tx.ofJson_of_rearranged_match :
    let offer (side : OfferSide) : Signed Offer :=
      ⟨⟨side, 7, 2, 5, 0, 100, 10, 20, 0, 0, 0, 0, 0, 0, none⟩, none⟩
    let tx : Tx := ⟨.atomicMatch ⟨6, offer .buy, offer .sell, ⟨1, 0, 100, 30, 1⟩⟩, none⟩
    let written (buy : Json) : List (Bytes × Json) :=
      [(Text.utf8 "AccountIndex", Codec.int64.write 6), (Text.utf8 "BuyOffer", buy),
        (Text.utf8 "SellOffer", Offer.codec.write (offer .sell)),
        (Text.utf8 "GasAccountIndex", Codec.int64.write 1),
        (Text.utf8 "GasFeeAssetId", Codec.int64.write 0),
        (Text.utf8 "GasFeeAssetAmount", Codec.amount.write 100),
        (Text.utf8 "ExpiredAt", Codec.int64.write 30), (Text.utf8 "Nonce", Codec.int64.write 1)]
    let note : Bytes × Json :=
      (Text.utf8 "Note", .array (Text.utf8 "[ 1 , null ]") [.number [49], .null])
    let turned : Json → Json
      | .object _ members => ofMembers (note :: members.reverse)
      | tree => tree
    let buy : Json := Offer.codec.write (offer .buy)
    let tree : Json := ofMembers (note :: (written (turned buy)).reverse)
    tx.tree = ofMembers (written buy) ∧ Json.ofText? tx.toJson = some (ofMembers (written buy)) ∧
      Json.ofText? (32 :: (tree.text ++ [10])) = some tree ∧
      Tx.ofJson .atomicMatch tx.toJson = .ok tx ∧
      Tx.ofJson .atomicMatch (32 :: (tree.text ++ [10])) = .ok tx := by
  intro offer tx written note turned buy tree
  have htree : tx.tree = ofMembers (written buy) := rfl
  have hnote : IsRaw note.1 ∧ Laid note.2 := by
    have hplain : note.1 = Literal.encode (Text.utf8 "Note") := rfl
    have hread : Json.ofText? (Text.utf8 "[ 1 , null ]") = some note.2 := rfl
    exact ⟨hplain ▸ isRaw_encode _, (ofText?_eq_some_iff.mp hread).1⟩
  have hlaid_turned {members : List (Bytes × Json)} (h : ∀ m ∈ members, IsRaw m.1 ∧ Laid m.2) :
      Laid (ofMembers (note :: members.reverse)) :=
    .ofMembers (List.forall_mem_cons.mpr ⟨hnote, fun m hm => h m (List.mem_reverse.mp hm)⟩)
  have hperm (members : List (Bytes × Json)) :
      (note :: members.reverse).Perm (members ++ [note]) :=
    (members.reverse_perm.cons note).trans (List.perm_append_singleton note members).symm
  have hadded {fields : List (String × Shape)} (h : "Note" ∉ fields.map Prod.fst) :
      ∀ m ∈ [note], ∃ name, Literal.string? m.1 = some name ∧ name ∉ fields.map Prod.fst :=
    List.forall_mem_singleton.mpr ⟨"Note", rfl, h⟩
  have hlaid : Laid (ofMembers (written buy)) := tx.writes.compact.laid
  have hlaid' : Laid tree := by
    obtain ⟨hfirst, hothers⟩ := List.forall_mem_cons.mp hlaid.members
    obtain ⟨⟨hkey, hbuy⟩, hothers⟩ := List.forall_mem_cons.mp hothers
    have hturned : Laid (turned buy) := hlaid_turned hbuy.members
    exact hlaid_turned (List.forall_mem_cons.mpr
      ⟨hfirst, List.forall_mem_cons.mpr ⟨⟨hkey, hturned⟩, hothers⟩⟩)
  have hbuy : Rearranged Offer.codec.shape buy (turned buy) :=
    .of_perm (hadded (by decide)) (hperm _)
  have hrearranged : Rearranged (Codec.record (TxKind.schema .atomicMatch)).shape
      (ofMembers (written buy)) tree := by
    let pairs : List (Bytes × Json × Json) :=
      (written buy).zipWith (fun m m' => (m.1, m.2, m'.2)) (written (turned buy))
    have hpairs : ∀ m ∈ pairs,
        Rearranged ((Shape.record (fields (TxKind.schema .atomicMatch))).member
          (Literal.string? m.1)) m.2.1 m.2.2 := by
      simp only [pairs, written, List.zipWith_cons_cons, List.zipWith_nil_right,
        List.forall_mem_cons]
      exact ⟨.blanks rfl, hbuy, .blanks rfl, .blanks rfl, .blanks rfl, .blanks rfl, .blanks rfl,
        .blanks rfl, nofun⟩
    exact .object hpairs (hadded (by decide)) (hperm (written (turned buy)))
  have htext : Json.ofText? tx.toJson = some (ofMembers (written buy)) :=
    ofText?_eq_some_iff.mpr ⟨hlaid, .self _⟩
  have htext' : Json.ofText? (32 :: (tree.text ++ [10])) = some tree :=
    ofText?_eq_some_iff.mpr ⟨hlaid', [32], [10], List.forall_mem_singleton.mpr rfl,
      List.forall_mem_singleton.mpr rfl, rfl⟩
  have hread : Tx.ofJson .atomicMatch tx.toJson = .ok tx := tx.ofJson_toJson
  exact ⟨htree, htext, htext', hread, Tx.ofJson_of_rearranged htext htext' hrearranged hread⟩

end RollupWallet
