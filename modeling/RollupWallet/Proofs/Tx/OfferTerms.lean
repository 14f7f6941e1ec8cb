import Mathlib
import RollupWallet.Proofs.Tx.Allowed
import RollupWallet.Proofs.Tx.Text

/-!
# What a valid offer says of its later terms

The first revision hashes an offer without its later terms, and only what is hashed has its range
checked.  The rates among these terms are checked once more with the rules, and the protocol's amount
is bounded by the price.  Nothing else looks at the account of the channel, so under the first
revision any integer may stand there, in an offer and in the offers of a match
(`Operation.validate_withChannel`).

The rules compare the protocol's amount with the price as they are written, but what is hashed is
their packed values.  Packing does not keep the order next to an amount that loses a digit, so there a
valid offer hashes a protocol's amount above its price (`PackedAmount.Packs.toNat_lt_toNat_iff`).
-/

namespace RollupWallet

open FieldValue

/-! ### The account of the channel -/

/-- The offer with another account of the channel. -/
def Offer.withChannel (op : Offer) (account : Int64) : Offer := { op with channelAccount := account }

/-- The match with other accounts of the channels of its offers. -/
def AtomicMatch.withChannels (op : AtomicMatch) (buy sell : Int64) : AtomicMatch :=
  { op with
    buy := ⟨op.buy.content.withChannel buy, op.buy.sig⟩
    sell := ⟨op.sell.content.withChannel sell, op.sell.sig⟩ }

namespace Operation

/-- The first revision does not look at the account of the channel. -/
theorem validate_withChannel (now : Int64) (offer : Offer) (account : Int64) :
    (Operation.offer (offer.withChannel account)).validate ⟨now, .v1⟩ =
      (Operation.offer offer).validate ⟨now, .v1⟩ := rfl

theorem validate_withChannels (now : Int64) (op : AtomicMatch) (buy sell : Int64) :
    (atomicMatch (op.withChannels buy sell)).validate ⟨now, .v1⟩ =
      (atomicMatch op).validate ⟨now, .v1⟩ := rfl

end Operation

theorem Offer.channelAccount_fits {now : Int64} {offer : Offer}
    (h : (Operation.offer offer).validate ⟨now, .v2⟩ = .ok ()) :
    FitsBits 32 offer.channelAccount := by
  obtain ⟨hhashable, _⟩ := Operation.validate_eq_ok_iff_allowed.mp h
  exact (Offer.Hashable.later hhashable rfl).channelAccount

/-- **Where the account of the channel is checked.**  It fits in 32 bits in every offer, and in both
offers of every match, that is valid under the second revision.  Under the first, whether an offer or
a match is valid does not depend on it. -/
theorem Offer.channelAccount_of_validate (now : Int64) :
    (∀ offer : Offer, (Operation.offer offer).validate ⟨now, .v2⟩ = .ok () →
      FitsBits 32 offer.channelAccount) ∧
    (∀ op : AtomicMatch, (Operation.atomicMatch op).validate ⟨now, .v2⟩ = .ok () →
      FitsBits 32 op.buy.content.channelAccount ∧ FitsBits 32 op.sell.content.channelAccount) ∧
    (∀ (offer : Offer) (account : Int64),
      (Operation.offer (offer.withChannel account)).validate ⟨now, .v1⟩ =
        (Operation.offer offer).validate ⟨now, .v1⟩) ∧
    ∀ (op : AtomicMatch) (buy sell : Int64),
      (Operation.atomicMatch (op.withChannels buy sell)).validate ⟨now, .v1⟩ =
        (Operation.atomicMatch op).validate ⟨now, .v1⟩ := by
  refine ⟨fun _ => channelAccount_fits, fun op h => ?_, Operation.validate_withChannel now,
    Operation.validate_withChannels now⟩
  obtain ⟨hterms, _, _⟩ := AtomicMatch.validate_eq_ok_iff.mp h
  exact ⟨channelAccount_fits hterms.buy_valid, channelAccount_fits hterms.sell_valid⟩

/-- A match of signed offers, whoever signed them. -/
theorem AtomicMatch.validate_sample (revision : Revision) :
    (Operation.atomicMatch (sample.withSigs .blank .blank)).validate ⟨5, revision⟩ = .ok () := by
  have hbuy : sample.buy.content.Hashable revision ∧
      sample.buy.content.Allowed ⟨5, revision⟩ := by
    cases revision <;> decide
  have hsell : sample.sell.content.Hashable revision ∧
      sample.sell.content.Allowed ⟨5, revision⟩ := by
    cases revision <;> decide
  refine validate_eq_ok_iff.mpr ⟨⟨sample_terms.pairs, ?_, ?_, sample_terms.not_expired,
    sample_terms.own_encode⟩, ⟨_, rfl⟩, ⟨_, rfl⟩⟩
  · exact Operation.validate_eq_ok_iff_allowed.mpr hbuy
  · exact Operation.validate_eq_ok_iff_allowed.mpr hsell

/-- An offer and a match of today's revision. -/
theorem Offer.channelAccount_of_validate_sample :
    (Operation.offer (AtomicMatch.sample.sell.content.withChannel 4294967295)).validate ⟨5, .v2⟩ =
        .ok () ∧
      FitsBits 32 4294967295 ∧
      (Operation.atomicMatch (AtomicMatch.sample.withSigs .blank .blank)).validate ⟨5, .v2⟩ =
        .ok () ∧
      FitsBits 32 AtomicMatch.sample.buy.content.channelAccount := by
  have hoffer : (Operation.offer
      (AtomicMatch.sample.sell.content.withChannel 4294967295)).validate ⟨5, .v2⟩ = .ok () := by
    decide +kernel
  obtain ⟨hchannel, hchannels, _⟩ := Offer.channelAccount_of_validate 5
  have hmatch := AtomicMatch.validate_sample .v2
  exact ⟨hoffer, hchannel _ hoffer, hmatch, (hchannels _ hmatch).1⟩

/-- Under the first revision an offer is valid whose channel has a negative account, and so is a match
of such an offer with one whose channel's account is too large. -/
theorem Offer.validate_channelAccount_outside :
    (Operation.offer (AtomicMatch.sample.sell.content.withChannel (-1))).validate ⟨5, .v1⟩ =
        .ok () ∧
      ¬ FitsBits 32 (AtomicMatch.sample.sell.content.withChannel (-1)).channelAccount ∧
      (Operation.atomicMatch ((AtomicMatch.sample.withSigs .blank .blank).withChannels (-1)
        4294967296)).validate ⟨5, .v1⟩ = .ok () ∧
      ¬ FitsBits 32 (-1) ∧ ¬ FitsBits 32 4294967296 := by
  have hnegative : ¬ FitsBits 32 (-1) := fun h => absurd h.1 (by decide)
  have hlarge : ¬ FitsBits 32 4294967296 := fun h => absurd h.2 (by decide)
  refine ⟨by decide +kernel, hnegative, ?_, hnegative, hlarge⟩
  rw [Operation.validate_withChannels]
  exact AtomicMatch.validate_sample .v1

/-! ### The elements of the two amounts -/

namespace Table

/-- The element of a field of a table, by the name of the field. -/
def elementOf? (table : Table) (elements : List Bytes32) (name : String) : Option Bytes32 :=
  ((table.map Field.name).zip elements).lookup name

theorem elementOf?_of_mem {table : Table} {elements : List Bytes32} {field : Field}
    (hnames : (table.map Field.name).Nodup) (hencode : table.encode = .ok elements)
    (hfield : field ∈ table) :
    ∃ element, field.value.encode field.name = .ok element ∧
      table.elementOf? elements field.name = some element := by
  induction table generalizing elements with
  | nil => cases hfield
  | cons head table ih =>
      obtain ⟨first, rest, rfl, hfirst, hrest⟩ := encode_cons_eq_ok hencode
      obtain ⟨hfresh, hnames⟩ := List.nodup_cons.mp hnames
      rcases List.mem_cons.mp hfield with rfl | hfield
      · exact ⟨first, hfirst, List.lookup_cons_self⟩
      · obtain ⟨element, hencode, hlookup⟩ := ih hnames hrest hfield
        refine ⟨element, hencode, ?_⟩
        have hname : field.name ≠ head.name := by
          intro hsame
          exact hfresh (hsame ▸ List.mem_map_of_mem hfield)
        rw [← hlookup, elementOf?, elementOf?, List.map_cons, List.zip_cons_cons, List.lookup_cons,
          beq_eq_false_iff_ne.mpr hname]

/-- The element of an amount stands for its packed value. -/
theorem toNat_elementOf?_amount {table : Table} {elements : List Bytes32} {name : String}
    {amount : ℕ} (hnames : (table.map Field.name).Nodup) (hencode : table.encode = .ok elements)
    (hfield : ⟨name, .amount amount⟩ ∈ table) :
    ∃ packed : PackedAmount, packed.Packs amount ∧
      (table.elementOf? elements name).map FixedBytes.toNat = some packed.toNat := by
  obtain ⟨element, helement, hlookup⟩ := elementOf?_of_mem hnames hencode hfield
  have hpackable : IsPackable amount := exists_encode_amount_iff.mp ⟨element, helement⟩
  obtain ⟨packed, hpacked⟩ := PackedAmount.exists_ofNat?_iff.mpr hpackable
  obtain ⟨hle, hpacks⟩ := PackedAmount.ofNat?_eq_some_iff.mp hpacked
  obtain rfl := Except.ok.inj (helement.symm.trans (encode_amount_of_packs name hpacked))
  refine ⟨packed, hpacks, ?_⟩
  rw [hlookup, Option.map_some, toNat_word]
  exact (toNat_lt_of_packs hpacks hle).trans (by decide)

end Table

namespace Offer

variable {now : Int64} {offer : Offer}

/-- The elements of the price and of the protocol's amount stand for their packed values. -/
theorem exists_packs_of_encode {elements : List Bytes32}
    (h : (offer.table .v2).encode = .ok elements) :
    ∃ price protocol : PackedAmount,
      price.Packs offer.amount ∧ protocol.Packs offer.protocolAmount ∧
      ((offer.table .v2).elementOf? elements "AssetAmount").map FixedBytes.toNat =
        some price.toNat ∧
      ((offer.table .v2).elementOf? elements "ProtocolAmount").map FixedBytes.toNat =
        some protocol.toNat := by
  have hnames : ((offer.table .v2).map Field.name).Nodup := by
    simp [table, baseFields, laterFields, kindField]
  have hpriceField : ⟨"AssetAmount", .amount offer.amount⟩ ∈ offer.table .v2 := by
    simp [table, baseFields, laterFields]
  have hprotocolField : ⟨"ProtocolAmount", .amount offer.protocolAmount⟩ ∈ offer.table .v2 := by
    simp [table, baseFields, laterFields]
  obtain ⟨price, hprice, hpriceElement⟩ := Table.toNat_elementOf?_amount hnames h hpriceField
  obtain ⟨protocol, hprotocol, hprotocolElement⟩ :=
    Table.toNat_elementOf?_amount hnames h hprotocolField
  exact ⟨price, protocol, hprice, hprotocol, hpriceElement, hprotocolElement⟩

/-- What is signed of a valid offer shows the packed values of its price and of the protocol's
amount. -/
theorem exists_signBody_of_validate
    (h : (Operation.offer offer).validate ⟨now, .v2⟩ = .ok ()) :
    ∃ (body : SignBody) (price protocol : PackedAmount),
      (Operation.offer offer).signBody ⟨now, .v2⟩ = .ok body ∧
      price.Packs offer.amount ∧ protocol.Packs offer.protocolAmount ∧
      ((offer.table .v2).elementOf? body.elements "AssetAmount").map FixedBytes.toNat =
        some price.toNat ∧
      ((offer.table .v2).elementOf? body.elements "ProtocolAmount").map FixedBytes.toNat =
        some protocol.toNat := by
  obtain ⟨body, hbody, _, hencode, _⟩ := Operation.exists_signBody_of_table rfl h
  obtain ⟨price, protocol, hamounts⟩ := exists_packs_of_encode hencode
  exact ⟨body, price, protocol, hbody, hamounts⟩

theorem protocolAmount_le_of_validate
    (h : (Operation.offer offer).validate ⟨now, .v2⟩ = .ok ()) :
    offer.protocolAmount ≤ offer.amount := by
  obtain ⟨_, hallowed⟩ := Operation.validate_eq_ok_iff_allowed.mp h
  exact Offer.Allowed.protocolAmount_le hallowed

end Offer

/-- **When a valid offer hashes a protocol's amount above its price.**  The packed price loses one
digit more than the packed protocol's amount, what is left of it is the smallest mantissa, and the
protocol's amount keeps a digit above that.  In all other valid offers the order is kept, and in these
the excess is less than one unit of the last digit of the price. -/
theorem Offer.packed_of_validate (now : Int64) (offer : Offer)
    (h : (Operation.offer offer).validate ⟨now, .v2⟩ = .ok ()) :
    ∃ (body : SignBody) (price protocol : PackedAmount),
      (Operation.offer offer).signBody ⟨now, .v2⟩ = .ok body ∧
      price.Packs offer.amount ∧ protocol.Packs offer.protocolAmount ∧
      ((offer.table .v2).elementOf? body.elements "AssetAmount").map FixedBytes.toNat =
        some price.toNat ∧
      ((offer.table .v2).elementOf? body.elements "ProtocolAmount").map FixedBytes.toNat =
        some protocol.toNat ∧
      (price.toNat < protocol.toNat ↔ price.exponent = protocol.exponent + 1 ∧
        price.mantissa = PackedAmount.leastMantissa ∧
        10 * PackedAmount.leastMantissa < protocol.mantissa) ∧
      protocol.toNat < price.toNat + 10 ^ price.exponent := by
  obtain ⟨body, price, protocol, hbody, hprice, hprotocol, hpriceElement, hprotocolElement⟩ :=
    exists_signBody_of_validate h
  have hle := protocolAmount_le_of_validate h
  refine ⟨body, price, protocol, hbody, hprice, hprotocol, hpriceElement, hprotocolElement,
    hprotocol.toNat_lt_toNat_iff hprice hle, ?_⟩
  calc protocol.toNat ≤ offer.protocolAmount := hprotocol.toNat_le
    _ ≤ offer.amount := hle
    _ < price.toNat + 10 ^ price.exponent := hprice.lt_toNat_add

/-- An offer of which the protocol takes a part. -/
def Offer.ofAmounts (amount protocolAmount : ℕ) : Offer :=
  { AtomicMatch.sample.sell.content with amount := amount, protocolAmount := protocolAmount }

/-- The price loses a digit, but it is far enough above the protocol's amount. -/
theorem Offer.packed_of_validate_round :
    (Operation.offer (ofAmounts 34359738370 34359738367)).validate ⟨5, .v2⟩ = .ok () ∧
      ∃ (body : SignBody) (price protocol : PackedAmount),
        (Operation.offer (ofAmounts 34359738370 34359738367)).signBody ⟨5, .v2⟩ = .ok body ∧
        price.Packs 34359738370 ∧ protocol.Packs 34359738367 ∧ protocol.toNat ≤ price.toNat := by
  have hvalid :
      (Operation.offer (ofAmounts 34359738370 34359738367)).validate ⟨5, .v2⟩ = .ok () := by
    decide +kernel
  obtain ⟨body, price, protocol, hbody, hprice, hprotocol, _, _, hiff, _⟩ :=
    packed_of_validate 5 _ hvalid
  have hpacks : PackedAmount.Packs ⟨3435973837, 1⟩ 34359738370 :=
    ⟨by decide, by decide, by decide⟩
  obtain rfl := hprice.unique hpacks
  refine ⟨hvalid, body, _, protocol, hbody, hprice, hprotocol, Nat.le_of_not_lt fun hlt => ?_⟩
  exact absurd (hiff.mp hlt).2.1 (by decide)

/-- The smallest price that loses a digit, and a protocol's amount just below it, which is the larger
one in what is signed. -/
theorem Offer.packed_price_lt_protocol :
    (Operation.offer (ofAmounts 34359738368 34359738367)).validate ⟨5, .v2⟩ = .ok () ∧
      ∃ body, (Operation.offer (ofAmounts 34359738368 34359738367)).signBody ⟨5, .v2⟩ = .ok body ∧
        (((ofAmounts 34359738368 34359738367).table .v2).elementOf? body.elements
          "AssetAmount").map FixedBytes.toNat = some 34359738360 ∧
        (((ofAmounts 34359738368 34359738367).table .v2).elementOf? body.elements
          "ProtocolAmount").map FixedBytes.toNat = some 34359738367 := by
  have hvalid :
      (Operation.offer (ofAmounts 34359738368 34359738367)).validate ⟨5, .v2⟩ = .ok () := by
    decide +kernel
  obtain ⟨body, price, protocol, hbody, hprice, hprotocol, hpriceElement, hprotocolElement⟩ :=
    exists_signBody_of_validate hvalid
  have hpacksPrice : PackedAmount.Packs ⟨3435973836, 1⟩ 34359738368 :=
    ⟨by decide, by decide, by decide⟩
  have hpacksProtocol : PackedAmount.Packs ⟨34359738367, 0⟩ 34359738367 :=
    ⟨by decide, by decide, by decide⟩
  obtain rfl := hprice.unique hpacksPrice
  obtain rfl := hprotocol.unique hpacksProtocol
  exact ⟨hvalid, body, hbody, hpriceElement, hprotocolElement⟩

end RollupWallet
