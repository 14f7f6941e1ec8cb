import Mathlib
import RollupWallet.Proofs.Signing

/-!
# A match is signed only after its offers are checked

A match is valid exactly if both offers are signed and its terms hold (`AtomicMatch.Terms`): the
offers fit together, each is valid by itself, and the fields of the match's own are in range.  The
rules of a match contain the rules of its offers, but not the ranges of their fields.  Those come in
with the table of the match, because each offer stands in it with its own digest, and a digest
exists only where all fields are in range (`AtomicMatch.validate_eq_ok_iff`).

So whoever signs a match has both offers checked, and the one path that signs matches checks their
signatures first (`Assembler.match_signed_checked`).  No other path signs a match at all.
-/

namespace RollupWallet

open Eddsa

/-! ### Offers -/

/-- An offer inside a match as a transaction of its own. -/
def Signed.asTx (offer : Signed Offer) : Tx := ⟨.offer offer.content, offer.sig⟩

theorem Operation.digest_offer (revision : Revision) (offer : Offer) :
    Operation.digest revision (.offer offer) = offer.digest revision := by
  unfold Operation.digest Offer.digest
  show (offer.table revision).signBody >>= _ = _
  cases (offer.table revision).signBody with
  | error e => rfl
  | ok body => rfl

theorem Offer.exists_digest_iff {revision : Revision} {offer : Offer} :
    (∃ digest, offer.digest revision = .ok digest) ↔
      ∃ elements, (offer.table revision).encode = .ok elements := by
  unfold Offer.digest
  constructor
  · rintro ⟨digest, h⟩
    cases hbody : (offer.table revision).signBody with
    | error e =>
        rw [hbody] at h
        cases h
    | ok body => exact Table.exists_encode_of_signBody hbody
  · rintro ⟨elements, hencode⟩
    obtain ⟨body, hbody⟩ := Table.exists_signBody hencode
    exact ⟨body.digest, by rw [hbody]; rfl⟩

theorem Offer.isCanonical_digest {revision : Revision} {offer : Offer} {digest : Bytes32}
    (h : offer.digest revision = .ok digest) : digest.isCanonical = true := by
  unfold Offer.digest at h
  cases hbody : (offer.table revision).signBody with
  | error e =>
      rw [hbody] at h
      cases h
  | ok body =>
      rw [hbody] at h
      rw [← Except.ok.inj h]
      exact Table.isCanonical_digest hbody

/-- An offer is valid exactly if it keeps its rules and has a digest. -/
theorem Offer.validate_eq_ok_iff {context : Context} {offer : Offer} :
    Operation.validate context (.offer offer) = .ok () ↔
      offer.check context = .ok () ∧ ∃ digest, offer.digest context.revision = .ok digest := by
  rw [Operation.validate_eq_ok_iff, Offer.exists_digest_iff]
  refine and_congr lift_eq_ok ?_
  constructor
  · rintro ⟨table, htable, hencode⟩
    rw [← Except.ok.inj htable] at hencode
    exact hencode
  · intro hencode
    exact ⟨_, rfl, hencode⟩

/-- The check of an offer inside a match is the check of the offer by itself. -/
theorem Signed.verifyOffer_eq_ok {offer : Signed Offer} {revision : Revision} (name : String)
    {key : PublicKey} :
    offer.verifyOffer revision name key = .ok () ↔ offer.asTx.verify revision key = .ok () := by
  unfold verifyOffer Tx.verify asTx offerSig
  rw [Operation.digest_offer]
  cases offer.sig with
  | none => exact ⟨nofun, nofun⟩
  | some sig => exact Iff.rfl

theorem AtomicMatch.verifyOffers_eq_ok {op : AtomicMatch} {revision : Revision}
    {buyKey sellKey : PublicKey} :
    op.verifyOffers revision buyKey sellKey = .ok () ↔
      op.buy.asTx.verify revision buyKey = .ok () ∧
        op.sell.asTx.verify revision sellKey = .ok () := by
  rw [← Signed.verifyOffer_eq_ok "BuyOffer.Sig", ← Signed.verifyOffer_eq_ok "SellOffer.Sig"]
  constructor
  · intro h
    obtain ⟨_, hbuy, hsell⟩ := bind_eq_ok.mp h
    exact ⟨hbuy, hsell⟩
  · rintro ⟨hbuy, hsell⟩
    exact bind_eq_ok.mpr ⟨(), hbuy, hsell⟩

/-! ### The terms of a match -/

/-- A buy offer and a sell offer of one trade. -/
structure Offer.Pairs (buy sell : Offer) : Prop where
  buy_side : buy.side = .buy
  sell_side : sell.side = .sell
  nft : buy.nft = sell.nft
  asset : buy.asset = sell.asset
  amount : buy.amount = sell.amount

theorem require_eq_ok {condition : Bool} {field : String} {reason : Reason} :
    require condition field reason = .ok () ↔ condition = true := by
  cases condition with
  | false => exact ⟨nofun, nofun⟩
  | true => exact ⟨fun _ => rfl, fun _ => rfl⟩

theorem checkOfferPair_eq_ok {buy sell : Offer} :
    checkOfferPair buy sell = .ok () ↔ buy.Pairs sell := by
  unfold checkOfferPair
  constructor
  · intro h
    obtain ⟨_, hbuy, h⟩ := bind_eq_ok.mp h
    obtain ⟨_, hsell, h⟩ := bind_eq_ok.mp h
    obtain ⟨_, hnft, h⟩ := bind_eq_ok.mp h
    obtain ⟨_, hasset, hamount⟩ := bind_eq_ok.mp h
    rw [require_eq_ok, decide_eq_true_eq] at hbuy hsell hnft hasset hamount
    exact ⟨hbuy, hsell, hnft, hasset, hamount⟩
  · intro h
    simp only [h.buy_side, h.sell_side, h.nft, h.asset, h.amount, decide_true]
    rfl

namespace AtomicMatch

variable {op : AtomicMatch} {context : Context}

/-- The fields of a match apart from its kind and its offers. -/
def ownFields (op : AtomicMatch) : Table :=
  ⟨"AccountIndex", .accountIndex op.account⟩ ::
    (op.envelope.feeFields ++ op.envelope.closingFields)

/-- What makes a match of signed offers valid. -/
structure Terms (context : Context) (op : AtomicMatch) : Prop where
  pairs : op.buy.content.Pairs op.sell.content
  buy_valid : Operation.validate context (.offer op.buy.content) = .ok ()
  sell_valid : Operation.validate context (.offer op.sell.content) = .ok ()
  not_expired : Rules.notExpired context op.envelope.expiredAt = .ok ()
  own_encode : ∀ field ∈ op.ownFields, field.Encodes

theorem check_eq_ok_iff :
    op.check context = .ok () ↔ op.buy.content.Pairs op.sell.content ∧
      op.buy.content.check context = .ok () ∧ op.sell.content.check context = .ok () ∧
      (∃ sig, op.buy.sig = some sig) ∧ (∃ sig, op.sell.sig = some sig) ∧
      Rules.notExpired context op.envelope.expiredAt = .ok () := by
  unfold check
  rw [← checkOfferPair_eq_ok]
  constructor
  · intro h
    obtain ⟨_, hpairs, h⟩ := bind_eq_ok.mp h
    obtain ⟨_, hbuy, h⟩ := bind_eq_ok.mp h
    obtain ⟨_, hsell, h⟩ := bind_eq_ok.mp h
    obtain ⟨buySig, hbuySig, h⟩ := bind_eq_ok.mp h
    obtain ⟨sellSig, hsellSig, hexpiry⟩ := bind_eq_ok.mp h
    exact ⟨hpairs, hbuy, hsell, ⟨buySig, Signed.offerSig_eq_ok.mp hbuySig⟩,
      ⟨sellSig, Signed.offerSig_eq_ok.mp hsellSig⟩, hexpiry⟩
  · rintro ⟨hpairs, hbuy, hsell, ⟨buySig, hbuySig⟩, ⟨sellSig, hsellSig⟩, hexpiry⟩
    refine bind_eq_ok.mpr ⟨(), hpairs, bind_eq_ok.mpr ⟨(), hbuy, ?_⟩⟩
    refine bind_eq_ok.mpr ⟨(), hsell, ?_⟩
    refine bind_eq_ok.mpr ⟨buySig, Signed.offerSig_eq_ok.mpr hbuySig, ?_⟩
    exact bind_eq_ok.mpr ⟨sellSig, Signed.offerSig_eq_ok.mpr hsellSig, hexpiry⟩

/-- The table of a match can be encoded exactly if its own fields can: the digests of the offers are
elements already, and a signature is hashed whatever it is. -/
theorem exists_encode_fields_iff {buy sell : Bytes32} (hbuy : buy.isCanonical = true)
    (hsell : sell.isCanonical = true) (buySig sellSig : Signature) :
    (∃ elements, Table.encode (op.fields buy sell buySig sellSig) = .ok elements) ↔
      ∀ field ∈ op.ownFields, field.Encodes := by
  have hdigest : ∀ (name : String) (digest : Bytes32), digest.isCanonical = true →
      Field.Encodes ⟨name, .hash digest⟩ := by
    intro name digest hcanonical
    exact Field.encodes_iff.mpr ⟨digest, if_pos hcanonical⟩
  have hkind : (kindField .atomicMatch).Encodes := rfl
  have hblob : ∀ (name : String) (bytes : Bytes), Field.Encodes ⟨name, .blob bytes⟩ :=
    fun _ _ => rfl
  rw [Table.exists_encode_iff]
  simp only [fields, ownFields, List.cons_append, List.nil_append, List.forall_mem_cons]
  constructor
  · rintro ⟨_, haccount, _, _, _, _, hothers⟩
    exact ⟨haccount, hothers⟩
  · rintro ⟨haccount, hothers⟩
    exact ⟨hkind, haccount, hdigest _ _ hbuy, hblob _ _, hdigest _ _ hsell, hblob _ _, hothers⟩

/-- **A match is valid exactly if both offers are signed and its terms hold.**  Among the terms is
that each offer is valid by itself. -/
theorem validate_eq_ok_iff : Operation.validate context (.atomicMatch op) = .ok () ↔
    op.Terms context ∧ (∃ sig, op.buy.sig = some sig) ∧ ∃ sig, op.sell.sig = some sig := by
  rw [Operation.validate_eq_ok_iff]
  constructor
  · rintro ⟨hcheck, table, htable, hencode⟩
    obtain ⟨hpairs, hbuy, hsell, hbuySig, hsellSig, hexpiry⟩ :=
      check_eq_ok_iff.mp (lift_eq_ok.mp hcheck)
    obtain ⟨_, _, buy, sell, _, _, hbuyDigest, hsellDigest, rfl⟩ := table_eq_ok_iff.mp htable
    have hown := (exists_encode_fields_iff (Offer.isCanonical_digest hbuyDigest)
      (Offer.isCanonical_digest hsellDigest) _ _).mp hencode
    refine ⟨⟨hpairs, ?_, ?_, hexpiry, hown⟩, hbuySig, hsellSig⟩
    · exact Offer.validate_eq_ok_iff.mpr ⟨hbuy, buy, hbuyDigest⟩
    · exact Offer.validate_eq_ok_iff.mpr ⟨hsell, sell, hsellDigest⟩
  · rintro ⟨hterms, ⟨buySig, hbuySig⟩, ⟨sellSig, hsellSig⟩⟩
    obtain ⟨hbuy, buy, hbuyDigest⟩ := Offer.validate_eq_ok_iff.mp hterms.buy_valid
    obtain ⟨hsell, sell, hsellDigest⟩ := Offer.validate_eq_ok_iff.mp hterms.sell_valid
    refine ⟨lift_eq_ok.mpr (check_eq_ok_iff.mpr ?_), op.fields buy sell buySig sellSig, ?_, ?_⟩
    · exact ⟨hterms.pairs, hbuy, hsell, ⟨buySig, hbuySig⟩, ⟨sellSig, hsellSig⟩, hterms.not_expired⟩
    · exact table_eq_ok_iff.mpr
        ⟨buySig, sellSig, buy, sell, hbuySig, hsellSig, hbuyDigest, hsellDigest, rfl⟩
    · exact (exists_encode_fields_iff (Offer.isCanonical_digest hbuyDigest)
        (Offer.isCanonical_digest hsellDigest) _ _).mpr hterms.own_encode

/-- A match with the signatures that its offers are given. -/
def withSigs (op : AtomicMatch) (buySig sellSig : Signature) : AtomicMatch :=
  { op with buy := ⟨op.buy.content, some buySig⟩, sell := ⟨op.sell.content, some sellSig⟩ }

/-- **Whoever makes an offer whose terms hold can sign it**, so that the match becomes valid. -/
theorem exists_withSigs {buyKey sellKey : SecretKey} (hbuyKey : buyKey.Consistent)
    (hsellKey : sellKey.Consistent) (hterms : op.Terms context) :
    ∃ buySig sellSig,
      (op.withSigs buySig sellSig).buy.asTx.verify context.revision buyKey.publicKey = .ok () ∧
      (op.withSigs buySig sellSig).sell.asTx.verify context.revision sellKey.publicKey = .ok () ∧
      Operation.validate context (.atomicMatch (op.withSigs buySig sellSig)) = .ok () := by
  obtain ⟨buySig, _, hbuy⟩ := Signer.signOperation_ofKey hbuyKey hterms.buy_valid
  obtain ⟨sellSig, _, hsell⟩ := Signer.signOperation_ofKey hsellKey hterms.sell_valid
  refine ⟨buySig, sellSig, hbuy, hsell, validate_eq_ok_iff.mpr ⟨?_, ⟨_, rfl⟩, ⟨_, rfl⟩⟩⟩
  exact ⟨hterms.pairs, hterms.buy_valid, hterms.sell_valid, hterms.not_expired, hterms.own_encode⟩

/-- A trade between two accounts, with a third one that brings them together.  Its offers are not
signed yet. -/
def sample : AtomicMatch where
  account := 4
  buy := ⟨⟨.buy, 1, 2, 7, 0, 10000, 1, 9, 50, 0, 0, 0, 0, 0, none⟩, none⟩
  sell := ⟨⟨.sell, 6, 3, 7, 0, 10000, 1, 9, 50, 0, 0, 0, 0, 0, none⟩, none⟩
  envelope := ⟨1, 0, 5000, 9, 8⟩

theorem sample_terms : sample.Terms ⟨5, .v2⟩ where
  pairs := ⟨rfl, rfl, rfl, rfl, rfl⟩
  buy_valid := by decide +kernel
  sell_valid := by decide +kernel
  not_expired := by decide +kernel
  own_encode := by decide +kernel

end AtomicMatch

/-! ### The paths of the assembler -/

namespace Assembler

theorem signMatch_eq_ok_iff {assembler : Assembler} {op : AtomicMatch}
    {buyKey sellKey : PublicKey} {tx : Tx} :
    assembler.signMatch op buyKey sellKey = .ok tx ↔
      op.buy.asTx.verify assembler.context.revision buyKey = .ok () ∧
      op.sell.asTx.verify assembler.context.revision sellKey = .ok () ∧
      ∃ signer, assembler.signer = some signer ∧
        signer.signOperation assembler.context (.atomicMatch op) = .ok tx := by
  have hsigner : assembler.signAny (.atomicMatch op) = .ok tx ↔
      ∃ signer, assembler.signer = some signer ∧
        signer.signOperation assembler.context (.atomicMatch op) = .ok tx := by
    unfold signAny
    cases assembler.signer with
    | none => exact ⟨nofun, fun ⟨_, hnone, _⟩ => nomatch hnone⟩
    | some signer =>
        constructor
        · intro h
          exact ⟨signer, rfl, h⟩
        · rintro ⟨_, ⟨rfl⟩, h⟩
          exact h
  rw [← hsigner, ← and_assoc, ← AtomicMatch.verifyOffers_eq_ok]
  constructor
  · intro h
    obtain ⟨_, hoffers, h⟩ := bind_eq_ok.mp h
    exact ⟨hoffers, h⟩
  · rintro ⟨hoffers, h⟩
    exact bind_eq_ok.mpr ⟨(), hoffers, h⟩

/-- A key at hand signs every valid match whose offers are signed by their makers. -/
theorem exists_signMatch {key : SecretKey} (hkey : key.Consistent) {context : Context}
    {op : AtomicMatch} {buyKey sellKey : PublicKey}
    (hbuy : op.buy.asTx.verify context.revision buyKey = .ok ())
    (hsell : op.sell.asTx.verify context.revision sellKey = .ok ())
    (hvalid : Operation.validate context (.atomicMatch op) = .ok ()) :
    ∃ sig, (Assembler.mk context (some (Signer.ofKey key))).signMatch op buyKey sellKey =
        .ok ⟨.atomicMatch op, some sig⟩ ∧
      Tx.verify context.revision key.publicKey ⟨.atomicMatch op, some sig⟩ = .ok () := by
  obtain ⟨sig, hsign, hverify⟩ := Signer.signOperation_ofKey hkey hvalid
  exact ⟨sig, signMatch_eq_ok_iff.mpr ⟨hbuy, hsell, _, rfl, hsign⟩, hverify⟩

/-- **No unchecked match is signed.**  All paths but one refuse every match, whatever signer there
is.  What the remaining path gives is the match with a new signature, which verifies if the signer's
key is known; the offers are signed under the keys that were given, valid by themselves, and fit
together. -/
theorem match_signed_checked (assembler : Assembler) (op : AtomicMatch) :
    (assembler.sign (.atomicMatch op) = .error (.mismatch .uncheckedMatch) ∧
      assembler.signJson (.atomicMatch op) = .error (.mismatch .uncheckedMatch) ∧
      (∀ (sig : Signature) (publicKey : Option PublicKey),
        assembler.attach (.atomicMatch op) sig publicKey = .error (.mismatch .uncheckedMatch)) ∧
      ∀ (request : AtomicMatchRequest) (options : RequestOptions) (defaults : EnvelopeDefaults),
        assembler.signRequest (.atomicMatch request) options defaults =
          .error (.mismatch .uncheckedMatch)) ∧
    ∀ (buyKey sellKey : PublicKey) (out : Tx),
      assembler.signMatch op buyKey sellKey = .ok out →
        (∃ sig, out = ⟨.atomicMatch op, some sig⟩) ∧
        op.buy.asTx.verify assembler.context.revision buyKey = .ok () ∧
        op.sell.asTx.verify assembler.context.revision sellKey = .ok () ∧
        Operation.validate assembler.context (.offer op.buy.content) = .ok () ∧
        Operation.validate assembler.context (.offer op.sell.content) = .ok () ∧
        op.buy.content.Pairs op.sell.content ∧
        ∀ signer key, assembler.signer = some signer → signer.publicKey = some key →
          out.verify assembler.context.revision key = .ok () := by
  refine ⟨⟨rfl, rfl, fun _ _ => rfl, fun _ _ _ => rfl⟩, ?_⟩
  intro buyKey sellKey out h
  obtain ⟨hbuy, hsell, signer, hsigner, h⟩ := signMatch_eq_ok_iff.mp h
  obtain ⟨hvalid, hout, hverify⟩ := Signer.signOperation_eq_ok h
  obtain ⟨hterms, _, _⟩ := AtomicMatch.validate_eq_ok_iff.mp hvalid
  refine ⟨hout, hbuy, hsell, hterms.buy_valid, hterms.sell_valid, hterms.pairs, ?_⟩
  intro other key hother hkey
  obtain rfl := Option.some.inj (hsigner.symm.trans hother)
  exact hverify key hkey

/-- The makers of two offers sign them, and a third party signs the match. -/
theorem match_signed_checked_sample :
    ∃ (key buyKey sellKey : SecretKey) (buySig sellSig : Signature) (out : Tx),
      SecretKey.ofSeed "broker" = .ok key ∧ SecretKey.ofSeed "buyer" = .ok buyKey ∧
      SecretKey.ofSeed "seller" = .ok sellKey ∧
      (Assembler.mk ⟨5, .v2⟩ (some (Signer.ofKey key))).signMatch
        (AtomicMatch.sample.withSigs buySig sellSig) buyKey.publicKey sellKey.publicKey = .ok out ∧
      out.verify .v2 key.publicKey = .ok () := by
  obtain ⟨key, hseed, hkey⟩ := SecretKey.exists_ofSeed_eq_ok (show "broker" ≠ "" by decide)
  obtain ⟨buyKey, hbuySeed, hbuyKey⟩ :=
    SecretKey.exists_ofSeed_eq_ok (show "buyer" ≠ "" by decide)
  obtain ⟨sellKey, hsellSeed, hsellKey⟩ :=
    SecretKey.exists_ofSeed_eq_ok (show "seller" ≠ "" by decide)
  obtain ⟨buySig, sellSig, hbuy, hsell, hvalid⟩ :=
    AtomicMatch.exists_withSigs hbuyKey hsellKey AtomicMatch.sample_terms
  obtain ⟨sig, hout, _⟩ := exists_signMatch hkey hbuy hsell hvalid
  have hchecked := (match_signed_checked _ _).2 _ _ _ hout
  have hverify := hchecked.2.2.2.2.2.2 (Signer.ofKey key) key.publicKey rfl rfl
  exact ⟨key, buyKey, sellKey, buySig, sellSig, _, hseed, hbuySeed, hsellSeed, hout, hverify⟩

end Assembler

end RollupWallet
