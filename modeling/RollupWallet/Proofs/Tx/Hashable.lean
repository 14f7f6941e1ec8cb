import Mathlib
import RollupWallet.Proofs.Amount.Packed
import RollupWallet.Proofs.Signing.Match

/-!
# Which operations can be hashed

Every value has a range that its meaning settles (`FieldValue.Fits`), and a value is encoded exactly
if it is in its range (`FieldValue.exists_encode_iff`).  An amount that is not too large is packed to
one that is no larger, which is far below the order of the field, so its packed value is always an
element.  Hence a table is encoded exactly if all its values fit.

For each operation this says which of its own fields are in which range (`Transfer.Hashable` and so
on).  Offers have more fields to check under the second revision, and a match needs both offers
signed and hashable, because their digests are fields of its own.  An operation has a digest exactly
if it is hashable (`Operation.exists_digest_iff`).
-/

namespace RollupWallet

/-! ### The range of a value -/

/-- An integer that so many bits can hold. -/
def FitsBits (bits : ℕ) (value : Int64) : Prop := 0 ≤ value.toInt ∧ value.toInt < 2 ^ bits

/-- A rate between zero and one hundred percent. -/
def IsShare (value : Int64) : Prop := 0 ≤ value.toInt ∧ value.toInt ≤ 10000

/-- An amount that can be packed. -/
def IsPackable (amount : ℕ) : Prop := amount ≤ (2 ^ 35 - 1) * 10 ^ 31

/-- A word that writes an element of the field. -/
def IsElement (word : Bytes32) : Prop := word.toNat < fieldModulus

instance (bits : ℕ) : DecidablePred (FitsBits bits) := fun _ => inferInstanceAs (Decidable (_ ∧ _))

instance : DecidablePred IsShare := fun _ => inferInstanceAs (Decidable (_ ∧ _))

instance : DecidablePred IsPackable := fun _ => inferInstanceAs (Decidable (_ ≤ _))

instance : DecidablePred IsElement := fun _ => inferInstanceAs (Decidable (_ < _))

theorem isRate_eq_true_iff {value : Int64} : FieldValue.isRate value = true ↔ IsShare value := by
  rw [FieldValue.isRate, Bool.and_eq_true, decide_eq_true_eq, decide_eq_true_eq]
  exact Iff.rfl

theorem isCanonical_eq_true_iff {word : Bytes32} : word.isCanonical = true ↔ IsElement word :=
  decide_eq_true_iff

theorem isPackable_iff {amount : ℕ} : IsPackable amount ↔ amount ≤ PackedAmount.maxAmount := Iff.rfl

namespace FieldValue

/-- A value is in the range of its meaning. -/
def Fits : FieldValue → Prop
  | kind _ => True
  | accountIndex value => FitsBits 32 value
  | assetId value => FitsBits 16 value
  | nftIndex value => FitsBits 40 value
  | offerId value => FitsBits 24 value
  | collectionId value => FitsBits 16 value
  | counter value => 0 ≤ value.toInt
  | rate value => IsShare value
  | amount value => IsPackable value
  | hash value => IsElement value
  | flag _ => True
  | address _ => True
  | blob _ => True

theorem nonNegative_of_nonneg (name : String) {value : Int64} (h : 0 ≤ value.toInt) :
    nonNegative name value = .ok value.toInt.toNat := by
  have hsign : ¬ value < 0 := by
    rw [Int64.lt_iff_toInt_lt, Int64.toInt_zero]
    exact Int.not_lt.mpr h
  rw [nonNegative, if_neg hsign]

theorem exists_bounded_iff {bits : ℕ} {name : String} {value : Int64} :
    (∃ element, bounded bits name value = .ok element) ↔ FitsBits bits value := by
  have hwide : 0 ≤ value.toInt →
      (Nat.pow 2 bits ≤ value.toInt.toNat ↔ ¬ value.toInt < 2 ^ bits) := by
    intro hpos
    rw [Nat.pow_eq, Int.le_toNat hpos, Int.not_lt, Nat.cast_pow, Nat.cast_ofNat]
  unfold bounded
  constructor
  · rintro ⟨element, h⟩
    obtain ⟨n, hn, h⟩ := bind_eq_ok.mp h
    obtain ⟨hpos, rfl⟩ := nonNegative_eq_ok hn
    split at h
    · cases h
    · next hfits => exact ⟨hpos, not_not.mp ((hwide hpos).not.mp hfits)⟩
  · rintro ⟨hpos, hlt⟩
    refine ⟨word value.toInt.toNat, bind_eq_ok.mpr ⟨_, nonNegative_of_nonneg name hpos, ?_⟩⟩
    rw [if_neg ((hwide hpos).not.mpr (not_not.mpr hlt))]
    rfl

/-- The packed value of an amount is always an element. -/
theorem toNat_lt_of_packs {packed : PackedAmount} {value : ℕ} (hpacks : packed.Packs value)
    (hle : value ≤ PackedAmount.maxAmount) : packed.toNat < fieldModulus :=
  calc packed.toNat ≤ value := hpacks.toNat_le
    _ ≤ PackedAmount.maxAmount := hle
    _ < fieldModulus := by decide

theorem encode_amount_of_packs (name : String) {packed : PackedAmount} {value : ℕ}
    (h : PackedAmount.ofNat? value = some packed) :
    (amount value).encode name = .ok (word packed.toNat) := by
  obtain ⟨hle, hpacks⟩ := PackedAmount.ofNat?_eq_some_iff.mp h
  have hlt := toNat_lt_of_packs hpacks hle
  refine bind_eq_ok.mpr ⟨packed, ?_, ?_⟩
  · rw [PackedAmount.pack, h]
  · have hfelt : Felt.ofNat? packed.toNat = some ⟨packed.toNat, hlt⟩ :=
      Felt.ofNat?_eq_some_iff.mpr rfl
    rw [hfelt]
    rfl

theorem exists_encode_amount_iff {name : String} {value : ℕ} :
    (∃ element, (amount value).encode name = .ok element) ↔ IsPackable value := by
  rw [isPackable_iff, ← PackedAmount.exists_ofNat?_iff]
  constructor
  · rintro ⟨element, h⟩
    exact Option.isSome_iff_exists.mp (Option.isSome_map.symm.trans (amount_eq_ok h).1)
  · rintro ⟨packed, hpacked⟩
    exact ⟨_, encode_amount_of_packs name hpacked⟩

/-- **A value is encoded exactly if it is in range.** -/
theorem exists_encode_iff {name : String} {value : FieldValue} :
    (∃ element, value.encode name = .ok element) ↔ value.Fits := by
  cases value with
  | accountIndex value => exact exists_bounded_iff
  | assetId value => exact exists_bounded_iff
  | nftIndex value => exact exists_bounded_iff
  | offerId value => exact exists_bounded_iff
  | collectionId value => exact exists_bounded_iff
  | counter value =>
      constructor
      · rintro ⟨element, h⟩
        exact (encode_eq_ok h).1
      · intro hpos
        exact ⟨word value.toInt.toNat, by rw [encode, nonNegative_of_nonneg name hpos]; rfl⟩
  | rate value =>
      rw [encode, Fits, ← isRate_eq_true_iff]
      exact exists_ite_eq_ok_iff
  | amount value => exact exists_encode_amount_iff
  | hash value =>
      rw [encode, Fits, ← isCanonical_eq_true_iff]
      exact exists_ite_eq_ok_iff
  -- the others have no range to leave
  | kind value => exact iff_of_true ⟨_, rfl⟩ trivial
  | flag value => exact iff_of_true ⟨_, rfl⟩ trivial
  | address value => exact iff_of_true ⟨_, rfl⟩ trivial
  | blob value => exact iff_of_true ⟨_, rfl⟩ trivial

end FieldValue

/-- All values of a table are in range. -/
def Table.Fits (table : Table) : Prop := ∀ field ∈ table, field.value.Fits

theorem Field.encodes_iff_fits {field : Field} : field.Encodes ↔ field.value.Fits :=
  encodes_iff.trans FieldValue.exists_encode_iff

theorem Table.exists_encode_iff_fits {table : Table} :
    (∃ elements, table.encode = .ok elements) ↔ table.Fits := by
  rw [exists_encode_iff]
  exact forall₂_congr fun _ _ => Field.encodes_iff_fits

@[simp] theorem Table.fits_append {front back : Table} :
    Table.Fits (front ++ back) ↔ front.Fits ∧ back.Fits :=
  List.forall_mem_append

@[simp] theorem Table.fits_cons {field : Field} {table : Table} :
    Table.Fits (field :: table) ↔ field.value.Fits ∧ table.Fits :=
  List.forall_mem_cons

@[simp] theorem Table.fits_nil : Table.Fits [] := nofun

/-! ### The ranges of the fields of each operation -/

/-- The fields of an envelope are in range. -/
@[mk_iff]
structure Envelope.Hashable (envelope : Envelope) : Prop where
  gasAccount : FitsBits 32 envelope.gasAccount
  gasAsset : FitsBits 16 envelope.gasAsset
  gasAmount : IsPackable envelope.gasAmount
  expiredAt : 0 ≤ envelope.expiredAt.toInt
  nonce : 0 ≤ envelope.nonce.toInt

theorem Envelope.hashable_iff_fits {envelope : Envelope} :
    envelope.Hashable ↔ envelope.feeFields.Fits ∧ envelope.closingFields.Fits := by
  simp [hashable_iff, feeFields, closingFields, FieldValue.Fits, and_assoc]

@[mk_iff]
structure Transfer.Hashable (op : Transfer) : Prop where
  fromAccount : FitsBits 32 op.fromAccount
  toAccount : FitsBits 32 op.toAccount
  toNameHash : IsElement op.toNameHash
  asset : FitsBits 16 op.asset
  amount : IsPackable op.amount
  callDataHash : IsElement op.callDataHash
  envelope : op.envelope.Hashable

theorem Transfer.hashable_iff_fits (op : Transfer) : op.Hashable ↔ op.table.Fits := by
  -- the hash of the call data stands between the two parts of the envelope
  simp [hashable_iff, Envelope.hashable_iff_fits, table, kindField, FieldValue.Fits, and_left_comm]

@[mk_iff]
structure Withdraw.Hashable (op : Withdraw) : Prop where
  fromAccount : FitsBits 32 op.fromAccount
  asset : FitsBits 16 op.asset
  amount : IsPackable op.amount
  envelope : op.envelope.Hashable

theorem Withdraw.hashable_iff_fits (op : Withdraw) : op.Hashable ↔ op.table.Fits := by
  simp [hashable_iff, Envelope.hashable_iff_fits, table, kindField, FieldValue.Fits]

@[mk_iff]
structure CreateCollection.Hashable (op : CreateCollection) : Prop where
  account : FitsBits 32 op.account
  collection : FitsBits 16 op.collection
  envelope : op.envelope.Hashable

theorem CreateCollection.hashable_iff_fits (op : CreateCollection) :
    op.Hashable ↔ op.table.Fits := by
  simp [hashable_iff, Envelope.hashable_iff_fits, table, kindField, FieldValue.Fits]

@[mk_iff]
structure MintNft.Hashable (op : MintNft) : Prop where
  creator : FitsBits 32 op.creator
  toAccount : FitsBits 32 op.toAccount
  toNameHash : IsElement op.toNameHash
  contentHash : IsElement op.contentHash
  collection : FitsBits 16 op.collection
  royaltyRate : IsShare op.royaltyRate
  envelope : op.envelope.Hashable

theorem MintNft.hashable_iff_fits (op : MintNft) : op.Hashable ↔ op.table.Fits := by
  simp [hashable_iff, Envelope.hashable_iff_fits, table, kindField, FieldValue.Fits]

@[mk_iff]
structure TransferNft.Hashable (op : TransferNft) : Prop where
  fromAccount : FitsBits 32 op.fromAccount
  toAccount : FitsBits 32 op.toAccount
  toNameHash : IsElement op.toNameHash
  nft : FitsBits 40 op.nft
  callDataHash : IsElement op.callDataHash
  envelope : op.envelope.Hashable

theorem TransferNft.hashable_iff_fits (op : TransferNft) : op.Hashable ↔ op.table.Fits := by
  simp [hashable_iff, Envelope.hashable_iff_fits, table, kindField, FieldValue.Fits, and_left_comm]

@[mk_iff]
structure WithdrawNft.Hashable (op : WithdrawNft) : Prop where
  account : FitsBits 32 op.account
  nft : FitsBits 40 op.nft
  envelope : op.envelope.Hashable

theorem WithdrawNft.hashable_iff_fits (op : WithdrawNft) : op.Hashable ↔ op.table.Fits := by
  simp [hashable_iff, Envelope.hashable_iff_fits, table, kindField, FieldValue.Fits]

@[mk_iff]
structure CancelOffer.Hashable (op : CancelOffer) : Prop where
  account : FitsBits 32 op.account
  offer : FitsBits 24 op.offer
  envelope : op.envelope.Hashable

theorem CancelOffer.hashable_iff_fits (op : CancelOffer) : op.Hashable ↔ op.table.Fits := by
  simp [hashable_iff, Envelope.hashable_iff_fits, table, kindField, FieldValue.Fits]

@[mk_iff]
structure ChangePubKey.Hashable (op : ChangePubKey) : Prop where
  account : FitsBits 32 op.account
  keyX : IsElement op.keyX
  keyY : IsElement op.keyY
  envelope : op.envelope.Hashable

theorem ChangePubKey.hashable_iff_fits (op : ChangePubKey) : op.Hashable ↔ op.table.Fits := by
  simp [hashable_iff, Envelope.hashable_iff_fits, table, kindField, FieldValue.Fits]

/-- The terms that the second revision adds to an offer are in range. -/
@[mk_iff]
structure Offer.LaterHashable (op : Offer) : Prop where
  channelAccount : FitsBits 32 op.channelAccount
  channelRate : IsShare op.channelRate
  protocolRate : IsShare op.protocolRate
  protocolAmount : IsPackable op.protocolAmount
  royaltyRate : IsShare op.royaltyRate

@[mk_iff]
structure Offer.Hashable (revision : Revision) (op : Offer) : Prop where
  id : FitsBits 24 op.id
  account : FitsBits 32 op.account
  nft : FitsBits 40 op.nft
  asset : FitsBits 16 op.asset
  amount : IsPackable op.amount
  listedAt : 0 ≤ op.listedAt.toInt
  expiredAt : 0 ≤ op.expiredAt.toInt
  treasuryRate : IsShare op.treasuryRate
  later : revision = .v2 → op.LaterHashable

instance (op : Offer) : Decidable op.LaterHashable := decidable_of_iff' _ (op.laterHashable_iff)

instance (revision : Revision) (op : Offer) : Decidable (op.Hashable revision) :=
  decidable_of_iff' _ (op.hashable_iff revision)

theorem Offer.hashable_iff_fits {revision : Revision} (op : Offer) :
    op.Hashable revision ↔ (op.table revision).Fits := by
  cases revision with
  | v1 =>
      simp [hashable_iff, table, baseFields, kindField, FieldValue.Fits]
  | v2 =>
      simp [hashable_iff, laterHashable_iff, table, baseFields, laterFields, kindField,
        FieldValue.Fits]

/-- A match is hashable if its offers are signed and hashable and its own fields are in range. -/
@[mk_iff]
structure AtomicMatch.Hashable (revision : Revision) (op : AtomicMatch) : Prop where
  account : FitsBits 32 op.account
  buy_signed : ∃ sig, op.buy.sig = some sig
  sell_signed : ∃ sig, op.sell.sig = some sig
  buy : op.buy.content.Hashable revision
  sell : op.sell.content.Hashable revision
  envelope : op.envelope.Hashable

theorem AtomicMatch.ownFields_encode_iff {op : AtomicMatch} :
    (∀ field ∈ op.ownFields, field.Encodes) ↔ FitsBits 32 op.account ∧ op.envelope.Hashable := by
  simp only [Field.encodes_iff_fits, Envelope.hashable_iff_fits, ← Table.fits_append]
  exact Table.fits_cons

/-! ### Operations with a digest -/

namespace Operation

/-- The fields of an operation that are hashed under a revision are in range. -/
def Hashable (revision : Revision) : Operation → Prop
  | changePubKey op => op.Hashable
  | transfer op => op.Hashable
  | withdraw op => op.Hashable
  | createCollection op => op.Hashable
  | mintNft op => op.Hashable
  | transferNft op => op.Hashable
  | atomicMatch op => op.Hashable revision
  | cancelOffer op => op.Hashable
  | withdrawNft op => op.Hashable
  | offer op => op.Hashable revision

variable {op : Operation} {revision : Revision}

theorem exists_digest_iff_fits :
    (∃ digest, op.digest revision = .ok digest) ↔
      ∃ table, op.table revision = .ok table ∧ table.Fits := by
  unfold digest
  constructor
  · rintro ⟨digest, h⟩
    obtain ⟨table, htable, h⟩ := bind_eq_ok.mp h
    obtain ⟨body, hbody, _⟩ := bind_eq_ok.mp h
    exact ⟨table, htable, Table.exists_encode_iff_fits.mp (Table.exists_encode_of_signBody hbody)⟩
  · rintro ⟨table, htable, hfits⟩
    obtain ⟨elements, hencode⟩ := Table.exists_encode_iff_fits.mpr hfits
    obtain ⟨body, hbody⟩ := Table.exists_signBody hencode
    exact ⟨body.digest, bind_eq_ok.mpr ⟨table, htable, bind_eq_ok.mpr ⟨body, hbody, rfl⟩⟩⟩

end Operation

/-- An offer has a digest exactly if it is hashable. -/
theorem Offer.exists_digest_iff_hashable {revision : Revision} {offer : Offer} :
    (∃ digest, offer.digest revision = .ok digest) ↔ offer.Hashable revision := by
  rw [exists_digest_iff, Table.exists_encode_iff_fits, hashable_iff_fits]

/-- A match has a table, and its values are in range, exactly if it is hashable. -/
theorem AtomicMatch.exists_table_iff {revision : Revision} (op : AtomicMatch) :
    (∃ table, op.table revision = .ok table ∧ table.Fits) ↔ op.Hashable revision := by
  have hfields : ∀ {buy sell : Bytes32} {buySig sellSig : Eddsa.Signature},
      op.buy.content.digest revision = .ok buy → op.sell.content.digest revision = .ok sell →
      (Table.Fits (op.fields buy sell buySig sellSig) ↔
        FitsBits 32 op.account ∧ op.envelope.Hashable) := by
    intro buy sell buySig sellSig hbuy hsell
    rw [← Table.exists_encode_iff_fits, exists_encode_fields_iff (Offer.isCanonical_digest hbuy)
      (Offer.isCanonical_digest hsell), ownFields_encode_iff]
  rw [hashable_iff, ← Offer.exists_digest_iff_hashable, ← Offer.exists_digest_iff_hashable]
  simp only [table_eq_ok_iff]
  constructor
  · rintro ⟨_, ⟨buySig, sellSig, buy, sell, hbuySig, hsellSig, hbuy, hsell, rfl⟩, hfits⟩
    obtain ⟨haccount, henvelope⟩ := (hfields hbuy hsell).mp hfits
    exact ⟨haccount, ⟨_, hbuySig⟩, ⟨_, hsellSig⟩, ⟨_, hbuy⟩, ⟨_, hsell⟩, henvelope⟩
  · rintro ⟨haccount, ⟨_, hbuySig⟩, ⟨_, hsellSig⟩, ⟨_, hbuy⟩, ⟨_, hsell⟩, henvelope⟩
    exact ⟨_, ⟨_, _, _, _, hbuySig, hsellSig, hbuy, hsell, rfl⟩,
      (hfields hbuy hsell).mpr ⟨haccount, henvelope⟩⟩

namespace Operation

variable {op : Operation} {revision : Revision}

theorem exists_table_iff :
    (∃ table, op.table revision = .ok table ∧ table.Fits) ↔ op.Hashable revision := by
  have hsingle : ∀ t : Table,
      (∃ table, (.ok t : Except WalletError Table) = .ok table ∧ table.Fits) ↔ t.Fits := by
    intro t
    simp only [Except.ok.injEq, exists_eq_left']
  cases op with
  | changePubKey op => exact (hsingle op.table).trans op.hashable_iff_fits.symm
  | transfer op => exact (hsingle op.table).trans op.hashable_iff_fits.symm
  | withdraw op => exact (hsingle op.table).trans op.hashable_iff_fits.symm
  | createCollection op => exact (hsingle op.table).trans op.hashable_iff_fits.symm
  | mintNft op => exact (hsingle op.table).trans op.hashable_iff_fits.symm
  | transferNft op => exact (hsingle op.table).trans op.hashable_iff_fits.symm
  | atomicMatch op => exact op.exists_table_iff
  | cancelOffer op => exact (hsingle op.table).trans op.hashable_iff_fits.symm
  | withdrawNft op => exact (hsingle op.table).trans op.hashable_iff_fits.symm
  | offer op => exact (hsingle (op.table revision)).trans op.hashable_iff_fits.symm

/-- **An operation has a digest exactly if it is hashable.** -/
theorem exists_digest_iff :
    (∃ digest, op.digest revision = .ok digest) ↔ op.Hashable revision := by
  rw [exists_digest_iff_fits, exists_table_iff]

end Operation

end RollupWallet
