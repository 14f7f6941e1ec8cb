import Mathlib
import RollupWallet.Proofs.Tx.Message
import RollupWallet.Proofs.Tx.OfferTerms

/-!
# What the text of an offer covers

A layer-1 owner signs the text of an offer, and what the rollup executes is what is hashed of it.  The
text prints the nine terms that the first revision hashes, each without loss, so it is the same for
two offers exactly if the tables of the first revision are (`Offer.message_eq_iff_table_v1`).  Hence
under the first revision the text covers all that is hashed.

The second revision hashes five terms more, at the end of the table, and the text was not extended
with it: whatever stands there, the text stays the same (`Offer.message_withLater`).  So there the
text covers the first ten elements, and two offers that differ in later elements only have one text
(`Offer.message_covers`).
-/

namespace RollupWallet

/-! ### Tables in two parts -/

namespace Table

/-- The elements of a table in two parts are those of the parts, one after the other. -/
theorem encode_append_eq_ok {front back : Table} {elements : List Bytes32} :
    encode (front ++ back) = .ok elements ↔
      ∃ first rest, front.encode = .ok first ∧ back.encode = .ok rest ∧ first ++ rest = elements := by
  unfold encode
  rw [List.mapM_append]
  constructor
  · intro h
    obtain ⟨first, hfirst, h⟩ := bind_eq_ok.mp h
    obtain ⟨rest, hrest, h⟩ := bind_eq_ok.mp h
    exact ⟨first, rest, hfirst, hrest, Except.ok.inj h⟩
  · rintro ⟨first, rest, hfirst, hrest, rfl⟩
    exact bind_eq_ok.mpr ⟨first, hfirst, bind_eq_ok.mpr ⟨rest, hrest, rfl⟩⟩

/-- The elements of the front of a table are as many as its fields. -/
theorem take_of_encode_append {front back : Table} {elements : List Bytes32}
    (h : encode (front ++ back) = .ok elements) :
    front.encode = .ok (elements.take front.length) ∧
      back.encode = .ok (elements.drop front.length) := by
  obtain ⟨first, rest, hfirst, hrest, rfl⟩ := encode_append_eq_ok.mp h
  rw [← length_of_encode hfirst, List.take_left, List.drop_left]
  exact ⟨hfirst, hrest⟩

end Table

namespace Offer

/-! ### The terms of the second revision -/

/-- The terms that the second revision hashes and the first does not. -/
structure LaterTerms where
  channelAccount : Int64
  channelRate : Int64
  protocolRate : Int64
  protocolAmount : ℕ
  royaltyRate : Int64

/-- The offer with other later terms. -/
def withLater (op : Offer) (terms : LaterTerms) : Offer :=
  { op with
    channelAccount := terms.channelAccount
    channelRate := terms.channelRate
    protocolRate := terms.protocolRate
    protocolAmount := terms.protocolAmount
    royaltyRate := terms.royaltyRate }

/-- The text says nothing of the later terms. -/
theorem message_withLater (op : Offer) (terms : LaterTerms) :
    (op.withLater terms).message = op.message := rfl

/-! ### The text and the table of the first revision -/

/-- **Offers have one text exactly if the first revision hashes one table of them.** -/
theorem message_eq_iff_table_v1 {op op' : Offer} :
    op.message = op'.message ↔ op.table .v1 = op'.table .v1 := by
  have hside : (decide (op.side = .sell) = decide (op'.side = .sell)) ↔ op.side = op'.side := by
    cases op.side <;> cases op'.side <;> decide
  rw [message_eq_iff]
  simp [table, baseFields, hside]

/-- Offers with one text have one front of their elements under either revision. -/
theorem take_eq_of_message_eq {op op' : Offer} {elements elements' : List Bytes32}
    (h : (op.table .v2).encode = .ok elements) (h' : (op'.table .v2).encode = .ok elements')
    (hmessage : op.message = op'.message) : elements.take 10 = elements'.take 10 := by
  have hfront := (Table.take_of_encode_append h).1
  have hfront' := (Table.take_of_encode_append h').1
  have hsame : op.baseFields = op'.baseFields := message_eq_iff_table_v1.mp hmessage
  rw [hsame] at hfront
  exact Except.ok.inj (hfront.symm.trans hfront')

theorem exists_encode_of_validate {now : Int64} {revision : Revision} {op : Offer}
    (h : (Operation.offer op).validate ⟨now, revision⟩ = .ok ()) :
    ∃ elements, (op.table revision).encode = .ok elements := by
  obtain ⟨body, _, _, hencode, _⟩ := Operation.exists_signBody_of_table rfl h
  exact ⟨body.elements, hencode⟩

/-- **What the text of an offer covers.**  Of valid offers of the first revision that are hashed
differently the texts are different.  Under the second revision this holds of offers that differ in
the first ten elements.  Two offers are hashed differently and still have one text exactly if their
tables are the same under the first revision and their elements differ behind the tenth; and no later
term of an offer has any influence on its text. -/
theorem message_covers (op op' : Offer) (now now' : Int64) :
    ((Operation.offer op).validate ⟨now, .v1⟩ = .ok () →
      (Operation.offer op').validate ⟨now', .v1⟩ = .ok () →
      ∃ elements elements', (op.table .v1).encode = .ok elements ∧
        (op'.table .v1).encode = .ok elements' ∧
        (elements ≠ elements' → op.message ≠ op'.message)) ∧
    ((Operation.offer op).validate ⟨now, .v2⟩ = .ok () →
      (Operation.offer op').validate ⟨now', .v2⟩ = .ok () →
      ∃ elements elements', (op.table .v2).encode = .ok elements ∧
        (op'.table .v2).encode = .ok elements' ∧
        (elements.take 10 ≠ elements'.take 10 → op.message ≠ op'.message) ∧
        (elements ≠ elements' ∧ op.message = op'.message ↔
          op.table .v1 = op'.table .v1 ∧ elements.drop 10 ≠ elements'.drop 10)) ∧
    ∀ terms, (op.withLater terms).message = op.message := by
  refine ⟨fun h h' => ?_, fun h h' => ?_, op.message_withLater⟩
  · obtain ⟨elements, hencode⟩ := exists_encode_of_validate h
    obtain ⟨elements', hencode'⟩ := exists_encode_of_validate h'
    refine ⟨elements, elements', hencode, hencode', mt fun hmessage => ?_⟩
    rw [message_eq_iff_table_v1.mp hmessage] at hencode
    exact Except.ok.inj (hencode.symm.trans hencode')
  · obtain ⟨elements, hencode⟩ := exists_encode_of_validate h
    obtain ⟨elements', hencode'⟩ := exists_encode_of_validate h'
    have hfront := take_eq_of_message_eq hencode hencode'
    refine ⟨elements, elements', hencode, hencode', mt hfront, ?_⟩
    rw [← message_eq_iff_table_v1, and_comm]
    refine and_congr_right fun hmessage => not_congr ⟨congrArg (List.drop 10), fun hrest => ?_⟩
    calc elements = elements.take 10 ++ elements.drop 10 := (List.take_append_drop 10 _).symm
      _ = elements'.take 10 ++ elements'.drop 10 := by rw [hfront hmessage, hrest]
      _ = elements' := List.take_append_drop 10 _

/-- Two offers of different prices, under either revision. -/
theorem message_covers_price :
    (Operation.offer (ofAmounts 10000 0)).validate ⟨5, .v1⟩ = .ok () ∧
      (Operation.offer (ofAmounts 20000 0)).validate ⟨6, .v1⟩ = .ok () ∧
      (Operation.offer (ofAmounts 10000 0)).validate ⟨5, .v2⟩ = .ok () ∧
      (Operation.offer (ofAmounts 20000 0)).validate ⟨6, .v2⟩ = .ok () ∧
      ∃ elements elements', ((ofAmounts 10000 0).table .v2).encode = .ok elements ∧
        ((ofAmounts 20000 0).table .v2).encode = .ok elements' ∧
        elements.take 10 ≠ elements'.take 10 ∧
        (ofAmounts 10000 0).message ≠ (ofAmounts 20000 0).message := by
  have hv1 : (Operation.offer (ofAmounts 10000 0)).validate ⟨5, .v1⟩ = .ok () := by decide +kernel
  have hv1' : (Operation.offer (ofAmounts 20000 0)).validate ⟨6, .v1⟩ = .ok () := by decide +kernel
  have hv2 : (Operation.offer (ofAmounts 10000 0)).validate ⟨5, .v2⟩ = .ok () := by decide +kernel
  have hv2' : (Operation.offer (ofAmounts 20000 0)).validate ⟨6, .v2⟩ = .ok () := by decide +kernel
  have hne : ((ofAmounts 10000 0).table .v1).encode ≠ ((ofAmounts 20000 0).table .v1).encode := by
    decide +kernel
  obtain ⟨hfirst, hsecond, _⟩ := message_covers (ofAmounts 10000 0) (ofAmounts 20000 0) 5 6
  obtain ⟨front, front', hfront, hfront', hcovers⟩ := hfirst hv1 hv1'
  obtain ⟨elements, elements', hencode, hencode', hcovers', _⟩ := hsecond hv2 hv2'
  refine ⟨hv1, hv1', hv2, hv2', elements, elements', hencode, hencode', ?_, hcovers ?_⟩
  · intro hsame
    have htake := (Table.take_of_encode_append hencode).1
    have htake' := (Table.take_of_encode_append hencode').1
    exact hne (htake.trans ((congrArg Except.ok hsame).trans htake'.symm))
  · rintro rfl
    exact hne (hfront.trans hfront'.symm)

/-- Two offers of one text, of which one leaves the seller the whole price but for the treasury's
share, and the other gives parts of it to a channel, to the protocol and to the creator. -/
theorem message_of_shared_price :
    let terms : LaterTerms := ⟨7, 30, 100, 100, 40⟩
    (Operation.offer (ofAmounts 10000 0)).validate ⟨5, .v2⟩ = .ok () ∧
      (Operation.offer ((ofAmounts 10000 0).withLater terms)).validate ⟨5, .v2⟩ = .ok () ∧
      (∃ elements elements', ((ofAmounts 10000 0).table .v2).encode = .ok elements ∧
        (((ofAmounts 10000 0).withLater terms).table .v2).encode = .ok elements' ∧
        elements ≠ elements') ∧
      ((ofAmounts 10000 0).withLater terms).message = (ofAmounts 10000 0).message := by
  intro terms
  have hvalid : (Operation.offer (ofAmounts 10000 0)).validate ⟨5, .v2⟩ = .ok () := by
    decide +kernel
  have hvalid' : (Operation.offer ((ofAmounts 10000 0).withLater terms)).validate ⟨5, .v2⟩ =
      .ok () := by
    decide +kernel
  have hne : ((ofAmounts 10000 0).table .v2).encode ≠
      (((ofAmounts 10000 0).withLater terms).table .v2).encode := by
    decide +kernel
  obtain ⟨elements, hencode⟩ := exists_encode_of_validate hvalid
  obtain ⟨elements', hencode'⟩ := exists_encode_of_validate hvalid'
  refine ⟨hvalid, hvalid', ⟨elements, elements', hencode, hencode', ?_⟩,
    message_withLater (ofAmounts 10000 0) terms⟩
  rintro rfl
  exact hne (hencode.trans hencode'.symm)

end Offer

end RollupWallet
