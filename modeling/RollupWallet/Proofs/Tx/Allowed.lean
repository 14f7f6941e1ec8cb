import Mathlib
import RollupWallet.Proofs.Tx.Hashable
import RollupWallet.Proofs.Tx.NewKey

/-!
# Which operations are accepted

The rules of an operation are conditions on its own fields and on the time (`Transfer.Allowed` and so
on).  Each is checked by one step, and the check passes exactly if all steps do (`bind_unit_eq_ok`,
`require_eq_ok`).  An operation is valid exactly if it is hashable and allowed
(`Operation.validate_eq_ok_iff_allowed`).

Two things are checked in one place and listed in another.  A check of a match asks for the
signatures of its offers, which are among the fields that are hashed.  And the rates of an offer are
checked with the rules, whatever the revision hashes of them.
-/

namespace RollupWallet

open Curve Eddsa

/-! ### Shared rules -/

namespace Rules

variable {context : Context} {expiry : Int64}

theorem notExpired_eq_ok : notExpired context expiry = .ok () ↔ context.now < expiry :=
  require_eq_ok.trans decide_eq_true_iff

theorem maxBytes_eq_ok {field text : String} {max : ℕ} :
    maxBytes field text max = .ok () ↔ text.utf8ByteSize ≤ max :=
  require_eq_ok.trans decide_eq_true_iff

theorem characterCount_eq_ok {field text : String} {min max : ℕ} :
    characterCount field text min max = .ok () ↔ min ≤ text.length ∧ text.length ≤ max := by
  rw [characterCount, require_eq_ok, Bool.and_eq_true, decide_eq_true_eq, decide_eq_true_eq]

theorem distinctAccounts_eq_ok {sender receiver : Int64} :
    distinctAccounts sender receiver = .ok () ↔ sender ≠ receiver :=
  require_eq_ok.trans decide_eq_true_iff

end Rules

theorem FixedBytes.isZero_eq_true_iff {n : ℕ} {word : FixedBytes n} :
    word.isZero = true ↔ word = .zero := by
  rw [isZero, List.all_eq_true, FixedBytes.ext_iff, zero, List.eq_replicate_iff]
  simp only [beq_iff_eq, word.length_eq, true_and]

namespace Rules

theorem layer1Receiver_eq_ok {address : Address} :
    layer1Receiver address = .ok () ↔ address ≠ .zero := by
  rw [layer1Receiver, require_eq_ok, Bool.not_eq_true', ne_eq, ← FixedBytes.isZero_eq_true_iff,
    Bool.not_eq_true]

/-- Call data is short, and if there is any, its hash is the one given. -/
structure CallDataAllowed (data : String) (hash : Bytes32) : Prop where
  size_le : data.utf8ByteSize ≤ 2000
  hash_eq : data ≠ "" → Hash.mimc (Text.utf8 data) = hash

theorem callData_eq_ok {data : String} {hash : Bytes32} :
    callData data hash = .ok () ↔ CallDataAllowed data hash := by
  rw [callData, bind_unit_eq_ok, maxBytes_eq_ok, require_eq_ok, Bool.or_eq_true, decide_eq_true_eq,
    decide_eq_true_eq, or_iff_not_imp_left]
  exact ⟨fun ⟨hsize, hhash⟩ => ⟨hsize, hhash⟩, fun ⟨hsize, hhash⟩ => ⟨hsize, hhash⟩⟩

theorem forM_eq_ok {α : Type} {f : α → Except InvalidInput Unit} {items : List α} :
    items.forM f = .ok () ↔ ∀ item ∈ items, f item = .ok () := by
  induction items with
  | nil => exact iff_of_true rfl nofun
  | cons item items ih =>
      change (f item >>= fun _ => items.forM f) = .ok () ↔ _
      rw [bind_unit_eq_ok, ih, List.forall_mem_cons]

/-- Several rates are in range and add up to no more than one hundred percent. -/
theorem rateSum_eq_ok {rates : List (String × Int64)} :
    rateSum rates = .ok () ↔
      (∀ rate ∈ rates, IsShare rate.2) ∧ (rates.map fun rate => rate.2.toInt).sum ≤ 10000 := by
  have hsum : ∀ start : ℤ, rates.foldl (fun sum rate => sum + rate.2.toInt) start =
      start + (rates.map fun rate => rate.2.toInt).sum := by
    induction rates with
    | nil => exact fun start => (Int.add_zero start).symm
    | cons rate rates ih =>
        intro start
        rw [List.foldl_cons, ih, List.map_cons, List.sum_cons, Int.add_assoc]
  rw [rateSum, bind_unit_eq_ok, forM_eq_ok]
  simp only [require_eq_ok, isRate_eq_true_iff, decide_eq_true_eq, hsum, Int.zero_add]
  exact Iff.rfl

end Rules

/-! ### The rules of each operation -/

@[mk_iff]
structure Transfer.Allowed (context : Context) (op : Transfer) : Prop where
  distinct : op.fromAccount ≠ op.toAccount
  memo_le : op.memo.utf8ByteSize ≤ 128
  callData : Rules.CallDataAllowed op.callData op.callDataHash
  not_expired : context.now < op.envelope.expiredAt

theorem Transfer.check_eq_ok {context : Context} {op : Transfer} :
    op.check context = .ok () ↔ op.Allowed context := by
  simp only [check, bind_unit_eq_ok, Rules.distinctAccounts_eq_ok, Rules.maxBytes_eq_ok,
    Rules.callData_eq_ok, Rules.notExpired_eq_ok]
  exact (allowed_iff context op).symm

@[mk_iff]
structure Withdraw.Allowed (context : Context) (op : Withdraw) : Prop where
  receiver_ne : op.toAddress ≠ .zero
  not_expired : context.now < op.envelope.expiredAt

theorem Withdraw.check_eq_ok {context : Context} {op : Withdraw} :
    op.check context = .ok () ↔ op.Allowed context := by
  rw [check, bind_unit_eq_ok, Rules.layer1Receiver_eq_ok, Rules.notExpired_eq_ok, allowed_iff]

@[mk_iff]
structure CreateCollection.Allowed (context : Context) (op : CreateCollection) : Prop where
  name_length : 1 ≤ op.name.length ∧ op.name.length ≤ 32
  introduction_length : op.introduction.length ≤ 128
  not_expired : context.now < op.envelope.expiredAt

theorem CreateCollection.check_eq_ok {context : Context} {op : CreateCollection} :
    op.check context = .ok () ↔ op.Allowed context := by
  simp only [check, bind_unit_eq_ok, Rules.characterCount_eq_ok, Rules.notExpired_eq_ok,
    Nat.zero_le, true_and]
  exact (allowed_iff context op).symm

@[mk_iff]
structure MintNft.Allowed (context : Context) (op : MintNft) : Prop where
  metaData_le : op.metaData.utf8ByteSize ≤ 2000
  mutableAttributes_le : op.mutableAttributes.utf8ByteSize ≤ 2000
  contentHash_eq : RollupWallet.contentHash (Text.utf8 op.metaData) = op.contentHash
  not_expired : context.now < op.envelope.expiredAt

theorem MintNft.check_eq_ok {context : Context} {op : MintNft} :
    op.check context = .ok () ↔ op.Allowed context := by
  simp only [check, bind_unit_eq_ok, Rules.maxBytes_eq_ok, require_eq_ok, decide_eq_true_eq,
    Rules.notExpired_eq_ok]
  exact (allowed_iff context op).symm

@[mk_iff]
structure TransferNft.Allowed (context : Context) (op : TransferNft) : Prop where
  distinct : op.fromAccount ≠ op.toAccount
  callData : Rules.CallDataAllowed op.callData op.callDataHash
  not_expired : context.now < op.envelope.expiredAt

theorem TransferNft.check_eq_ok {context : Context} {op : TransferNft} :
    op.check context = .ok () ↔ op.Allowed context := by
  simp only [check, bind_unit_eq_ok, Rules.distinctAccounts_eq_ok, Rules.callData_eq_ok,
    Rules.notExpired_eq_ok]
  exact (allowed_iff context op).symm

@[mk_iff]
structure WithdrawNft.Allowed (context : Context) (op : WithdrawNft) : Prop where
  receiver_ne : op.toAddress ≠ .zero
  not_expired : context.now < op.envelope.expiredAt

theorem WithdrawNft.check_eq_ok {context : Context} {op : WithdrawNft} :
    op.check context = .ok () ↔ op.Allowed context := by
  rw [check, bind_unit_eq_ok, Rules.layer1Receiver_eq_ok, Rules.notExpired_eq_ok, allowed_iff]

/-- The rules of an offer, which are the same under both revisions. -/
@[mk_iff]
structure Offer.Allowed (context : Context) (op : Offer) : Prop where
  listedAt_le : op.listedAt ≤ op.expiredAt
  not_expired : context.now < op.expiredAt
  treasuryRate : IsShare op.treasuryRate
  channelRate : IsShare op.channelRate
  protocolRate : IsShare op.protocolRate
  royaltyRate : IsShare op.royaltyRate
  rates_le : op.treasuryRate.toInt + op.channelRate.toInt + op.protocolRate.toInt +
    op.royaltyRate.toInt ≤ 10000
  protocolAmount_le : op.protocolAmount ≤ op.amount

instance (context : Context) (op : Offer) : Decidable (op.Allowed context) :=
  decidable_of_iff' _ (op.allowed_iff context)

theorem Offer.check_eq_ok {context : Context} {op : Offer} :
    op.check context = .ok () ↔ op.Allowed context := by
  simp only [check, bind_unit_eq_ok, require_eq_ok, decide_eq_true_eq, Rules.notExpired_eq_ok,
    Rules.rateSum_eq_ok, List.forall_mem_cons, List.map_cons, List.sum_cons, allowed_iff]
  simp [and_assoc, Int.add_assoc]

/-- The rules of a match, apart from its offers' being signed. -/
@[mk_iff]
structure AtomicMatch.Allowed (context : Context) (op : AtomicMatch) : Prop where
  pairs : op.buy.content.Pairs op.sell.content
  buy : op.buy.content.Allowed context
  sell : op.sell.content.Allowed context
  not_expired : context.now < op.envelope.expiredAt

theorem AtomicMatch.check_eq_ok {context : Context} {op : AtomicMatch}
    (hbuySig : ∃ sig, op.buy.sig = some sig) (hsellSig : ∃ sig, op.sell.sig = some sig) :
    op.check context = .ok () ↔ op.Allowed context := by
  rw [check_eq_ok_iff, Offer.check_eq_ok, Offer.check_eq_ok, Rules.notExpired_eq_ok, allowed_iff,
    and_iff_right hbuySig, and_iff_right hsellSig]

@[mk_iff]
structure CancelOffer.Allowed (context : Context) (op : CancelOffer) : Prop where
  not_expired : context.now < op.envelope.expiredAt

theorem CancelOffer.check_eq_ok {context : Context} {op : CancelOffer} :
    op.check context = .ok () ↔ op.Allowed context := by
  rw [check, Rules.notExpired_eq_ok, allowed_iff]

/-- The new key is a point of the curve, and if there is a layer-1 signature, it is the owner's. -/
@[mk_iff]
structure ChangePubKey.Allowed (context : Context) (op : ChangePubKey) : Prop where
  key_onCurve : ∃ p : Point, p.onCurve = true ∧ op.keyX = p.x.toBytes32 ∧ op.keyY = p.y.toBytes32
  consent : ∀ sig, op.layer1Sig = some sig →
    Layer1.recover (Text.utf8 op.message) sig = .ok op.owner
  not_expired : context.now < op.envelope.expiredAt

theorem ChangePubKey.check_eq_ok {context : Context} {op : ChangePubKey} :
    op.check context = .ok () ↔ op.Allowed context := by
  have hkey : (∃ key, PublicKey.ofCoordinates op.keyX op.keyY = .ok key) ↔
      ∃ p : Point, p.onCurve = true ∧ op.keyX = p.x.toBytes32 ∧ op.keyY = p.y.toBytes32 := by
    constructor
    · rintro ⟨⟨p⟩, hkey⟩
      obtain ⟨hx, hy, hcurve⟩ := PublicKey.ofCoordinates_eq_ok_iff.mp hkey
      exact ⟨p, hcurve, hx, hy⟩
    · rintro ⟨p, hcurve, hx, hy⟩
      exact ⟨⟨p⟩, PublicKey.ofCoordinates_eq_ok_iff.mpr ⟨hx, hy, hcurve⟩⟩
  rw [check_eq_ok_iff, Rules.notExpired_eq_ok, hkey, allowed_iff]

/-! ### Operations that are accepted -/

namespace Operation

/-- The rules of an operation hold at a time. -/
def Allowed (context : Context) : Operation → Prop
  | changePubKey op => op.Allowed context
  | transfer op => op.Allowed context
  | withdraw op => op.Allowed context
  | createCollection op => op.Allowed context
  | mintNft op => op.Allowed context
  | transferNft op => op.Allowed context
  | atomicMatch op => op.Allowed context
  | cancelOffer op => op.Allowed context
  | withdrawNft op => op.Allowed context
  | offer op => op.Allowed context

variable {op : Operation} {context : Context} {revision : Revision}

/-- An operation that is hashable passes its check exactly if it is allowed. -/
theorem check_eq_ok (h : op.Hashable revision) : op.check context = .ok () ↔ op.Allowed context := by
  cases op with
  | changePubKey op => exact ChangePubKey.check_eq_ok
  | transfer op => exact lift_eq_ok.trans Transfer.check_eq_ok
  | withdraw op => exact lift_eq_ok.trans Withdraw.check_eq_ok
  | createCollection op => exact lift_eq_ok.trans CreateCollection.check_eq_ok
  | mintNft op => exact lift_eq_ok.trans MintNft.check_eq_ok
  | transferNft op => exact lift_eq_ok.trans TransferNft.check_eq_ok
  | atomicMatch op => exact lift_eq_ok.trans (AtomicMatch.check_eq_ok h.buy_signed h.sell_signed)
  | cancelOffer op => exact lift_eq_ok.trans CancelOffer.check_eq_ok
  | withdrawNft op => exact lift_eq_ok.trans WithdrawNft.check_eq_ok
  | offer op => exact lift_eq_ok.trans Offer.check_eq_ok

/-- An operation is valid exactly if it is hashable and allowed. -/
theorem validate_eq_ok_iff_allowed :
    op.validate context = .ok () ↔ op.Hashable context.revision ∧ op.Allowed context := by
  have hencode : (∃ table, op.table context.revision = .ok table ∧
      ∃ elements, table.encode = .ok elements) ↔ op.Hashable context.revision := by
    simp only [Table.exists_encode_iff_fits, exists_table_iff]
  rw [validate_eq_ok_iff, hencode, and_comm]
  exact and_congr_right check_eq_ok

end Operation

/-- **The operations that are accepted.**  An operation has a digest exactly if every field that is
hashed of it is in range, and it is valid exactly if moreover its rules hold. -/
theorem accepted_iff (context : Context) (op : Operation) :
    ((∃ digest, op.digest context.revision = .ok digest) ↔ op.Hashable context.revision) ∧
      (op.validate context = .ok () ↔ op.Hashable context.revision ∧ op.Allowed context) :=
  ⟨Operation.exists_digest_iff, Operation.validate_eq_ok_iff_allowed⟩

end RollupWallet
