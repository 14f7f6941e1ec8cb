import Mathlib
import RollupWallet.Proofs.Amount.Bits
import RollupWallet.Proofs.Tx.OfferTerms
import RollupWallet.Request.Build
import RollupWallet.Tx.Wire

/-!
# The protocol's share of an offer

An offer that is built from a request names the share of its price that the protocol takes.  The
share is rounded down twice, to a whole number and then to what a packed form stands for, so it is
hashed as it is written (`packAmount_eq_self`).  The price is written in full and packed only where it
is hashed, so the price that is hashed may be a smaller one.

That the share stays within that smaller price is not a matter of course, because packing does not
keep the order of amounts (`PackedAmount.Packs.toNat_lt_toNat_iff`).  Two facts save it.

* A rate has steps of one part in 10000.  Below one hundred percent the share is smaller than the
  price by such a step, and packing takes less of the price than that
  (`PackedAmount.Packs.le_toNat_of_mul_le`).
* At one hundred percent the share is the price, and one amount has one packed form.
-/

namespace RollupWallet

open Json

/-! ### The share and the price -/

theorem share_le {amount rate : ℕ} (hrate : rate ≤ 10000) : amount * rate / 10000 ≤ amount := by
  apply Nat.div_le_of_le_mul
  rw [Nat.mul_comm 10000]
  exact Nat.mul_le_mul_left amount hrate

/-- **The packed share stays within the packed price.** -/
theorem PackedAmount.Packs.share_le_toNat {share price : PackedAmount} {amount rate : ℕ}
    (hrate : rate ≤ 10000) (hshare : share.Packs (amount * rate / 10000))
    (hprice : price.Packs amount) : share.toNat ≤ price.toNat := by
  rcases Nat.lt_or_eq_of_le hrate with hpart | rfl
  · have hstep : 10000 * (amount * rate / 10000) ≤ 9999 * amount :=
      calc 10000 * (amount * rate / 10000)
          ≤ amount * rate := Nat.mul_div_le _ _
        _ ≤ amount * 9999 := Nat.mul_le_mul_left amount (Nat.le_of_lt_succ hpart)
        _ = 9999 * amount := Nat.mul_comm _ _
    refine hshare.toNat_le.trans (hprice.le_toNat_of_mul_le ?_)
    rw [leastMantissa_eq]
    omega
  · rw [Nat.mul_div_cancel _ (by decide)] at hshare
    rw [hshare.unique hprice]

theorem protocolShare_of_nonneg (amount : ℕ) {rate : Int64} (hrate : 0 ≤ rate.toInt) :
    protocolShare amount rate = packAmount (amount * rate.toInt.toNat / 10000) := by
  have hsign : ¬ rate < 0 := by
    rw [Int64.lt_iff_toInt_lt, Int64.toInt_zero]
    exact Int.not_lt.mpr hrate
  rw [protocolShare, if_neg hsign]

/-- Of an amount that can be packed every share can be packed. -/
theorem exists_protocolShare {amount : ℕ} {rate : Int64} (hamount : IsPackable amount)
    (hrate : IsShare rate) :
    ∃ share price, protocolShare amount rate = .ok share ∧ packAmount amount = .ok price ∧
      share ≤ amount * rate.toInt.toNat / 10000 ∧ share ≤ price := by
  have hle : rate.toInt.toNat ≤ 10000 := Int.toNat_le.mpr hrate.2
  obtain ⟨share, hshare⟩ := PackedAmount.exists_ofNat?_iff.mpr ((share_le hle).trans hamount)
  obtain ⟨price, hprice⟩ := PackedAmount.exists_ofNat?_iff.mpr hamount
  have hsharePacks := (PackedAmount.ofNat?_eq_some_iff.mp hshare).2
  have hpricePacks := (PackedAmount.ofNat?_eq_some_iff.mp hprice).2
  refine ⟨share.toNat, price.toNat, ?_, packAmount_eq_ok_iff.mpr ⟨price, hprice, rfl⟩,
    hsharePacks.toNat_le, hsharePacks.share_le_toNat hle hpricePacks⟩
  rw [protocolShare_of_nonneg amount hrate.1]
  exact packAmount_eq_ok_iff.mpr ⟨share, hshare, rfl⟩

/-! ### What is written and hashed of an offer -/

/-- A tree is an object with a member of this name and value. -/
def Json.HasMember (tree : Json) (name : String) (value : Json) : Prop :=
  ∃ members, tree = .ofMembers members ∧ (Text.utf8 name, value) ∈ members

namespace Offer

/-- The protocol's amount is written in full. -/
theorem hasMember_protocolAmount (offer : Offer) (sig : Option Eddsa.Signature) :
    (Tx.tree ⟨.offer offer, sig⟩).HasMember "ProtocolAmount"
      (.number (Text.Decimal.natural offer.protocolAmount)) := by
  refine ⟨_, rfl, ?_⟩
  simp [schema, Record.toMembers, Member.required, Member.withDefault, Codec.amount]

/-- What is hashed for the two amounts are their packed values. -/
theorem toNat_elements_amounts {offer : Offer} {body : SignBody} {share price : ℕ}
    (h : (offer.table .v2).signBody = .ok body) (hprice : packAmount offer.amount = .ok price)
    (hshare : packAmount offer.protocolAmount = .ok share) :
    ((offer.table .v2).elementOf? body.elements "ProtocolAmount").map FixedBytes.toNat =
        some share ∧
      ((offer.table .v2).elementOf? body.elements "AssetAmount").map FixedBytes.toNat =
        some price := by
  obtain ⟨packedPrice, hpackedPrice, rfl⟩ := packAmount_eq_ok_iff.mp hprice
  obtain ⟨packedShare, hpackedShare, rfl⟩ := packAmount_eq_ok_iff.mp hshare
  obtain ⟨p, q, hp, hq, hpElement, hqElement⟩ := exists_packs_of_encode (Table.signBody_eq_ok h).1
  rw [hpElement, hqElement, hp.unique (PackedAmount.ofNat?_eq_some_iff.mp hpackedPrice).2,
    hq.unique (PackedAmount.ofNat?_eq_some_iff.mp hpackedShare).2]
  exact ⟨rfl, rfl⟩

end Offer

namespace OfferRequest

/-- **The share that is written is hashed, and it stays within the price that is hashed.**  A request
with a price that can be packed and a rate in range becomes an offer, whatever the options and the
defaults are.  Its share is the exact one or less, which is at most the price; it is packed as it is,
so what the digest absorbs is the number in the text; and what it absorbs for the price is not
smaller.  (The first revision absorbs no share.) -/
theorem build_share_absorbed (request : OfferRequest) (options : RequestOptions)
    (defaults : EnvelopeDefaults) (hamount : request.amount ≤ (2 ^ 35 - 1) * 10 ^ 31)
    (hrate : 0 ≤ request.protocolRate.toInt ∧ request.protocolRate.toInt ≤ 10000) :
    ∃ (offer : Offer) (price : ℕ),
      (Request.offer request).build options defaults = .ok (.offer offer) ∧
      offer.amount = request.amount ∧ packAmount offer.amount = .ok price ∧
      offer.protocolAmount ≤ request.amount * request.protocolRate.toInt.toNat / 10000 ∧
      request.amount * request.protocolRate.toInt.toNat / 10000 ≤ request.amount ∧
      packAmount offer.protocolAmount = .ok offer.protocolAmount ∧
      offer.protocolAmount ≤ price ∧
      (∀ sig, (Tx.tree ⟨.offer offer, sig⟩).HasMember "ProtocolAmount"
        (.number (Text.Decimal.natural offer.protocolAmount))) ∧
      ∀ body, (offer.table .v2).signBody = .ok body →
        ((offer.table .v2).elementOf? body.elements "ProtocolAmount").map FixedBytes.toNat =
          some offer.protocolAmount ∧
        ((offer.table .v2).elementOf? body.elements "AssetAmount").map FixedBytes.toNat =
          some price := by
  obtain ⟨share, price, hshare, hprice, hexact, hwithin⟩ := exists_protocolShare hamount hrate
  have hkept : packAmount share = .ok share := by
    rw [protocolShare_of_nonneg _ hrate.1] at hshare
    exact packAmount_eq_self hshare
  have hbuild : (Request.offer request).build options defaults = .ok (.offer
      ⟨request.side, request.id, options.fromAccount, request.nft, request.asset, request.amount,
        request.listedAt.getD defaults.now, options.expiry defaults, request.treasuryRate,
        request.channelAccount, request.channelRate, request.protocolRate, share,
        request.royaltyRate, none⟩) := bind_eq_ok.mpr ⟨share, hshare, rfl⟩
  exact ⟨_, price, hbuild, rfl, hprice, hexact, share_le (Int.toNat_le.mpr hrate.2), hkept, hwithin,
    Offer.hasMember_protocolAmount _,
    fun _ hbody => Offer.toNat_elements_amounts hbody hprice hkept⟩

/-- All of the smallest price that loses a digit. -/
theorem build_share_absorbed_whole :
    let request : OfferRequest := ⟨.sell, 3, 7, 0, 34359738368, none, 0, 1, 0, 10000, 0⟩
    let options : RequestOptions :=
      ⟨2, none, none, none, none, none, none, "", none, none, none, ""⟩
    let defaults : EnvelopeDefaults := ⟨1, 5000, 9, 1700000000000⟩
    request.amount ≤ (2 ^ 35 - 1) * 10 ^ 31 ∧
      (0 ≤ request.protocolRate.toInt ∧ request.protocolRate.toInt ≤ 10000) ∧
      ∃ (offer : Offer) (body : SignBody),
        (Request.offer request).build options defaults = .ok (.offer offer) ∧
        offer.amount = 34359738368 ∧ offer.protocolAmount = 34359738360 ∧
        (offer.table .v2).signBody = .ok body ∧
        ((offer.table .v2).elementOf? body.elements "ProtocolAmount").map FixedBytes.toNat =
          some 34359738360 ∧
        ((offer.table .v2).elementOf? body.elements "AssetAmount").map FixedBytes.toNat =
          some 34359738360 := by
  intro request options defaults
  have hamount : request.amount ≤ (2 ^ 35 - 1) * 10 ^ 31 := by decide
  have hrate : 0 ≤ request.protocolRate.toInt ∧ request.protocolRate.toInt ≤ 10000 := by decide
  let offer : Offer := ⟨.sell, 3, 2, 7, 0, 34359738368, 1700000000000, 1700007200000, 0, 1, 0, 10000,
    34359738360, 0, none⟩
  have hform : (Request.offer request).build options defaults = .ok (.offer offer) := by
    decide +kernel
  have hpacked : packAmount offer.amount = .ok 34359738360 := by decide +kernel
  have hhashable : offer.Hashable .v2 := by decide
  obtain ⟨built, price, hbuild, _, hprice, _, _, _, _, _, helements⟩ :=
    build_share_absorbed request options defaults hamount hrate
  obtain rfl : built = offer := Operation.offer.inj (Except.ok.inj (hbuild.symm.trans hform))
  obtain rfl := Except.ok.inj (hprice.symm.trans hpacked)
  obtain ⟨elements, hencode⟩ :=
    Table.exists_encode_iff_fits.mpr ((Offer.hashable_iff_fits _).mp hhashable)
  obtain ⟨body, hbody⟩ := Table.exists_signBody hencode
  exact ⟨hamount, hrate, offer, body, hbuild, rfl, rfl, hbody, helements body hbody⟩

end OfferRequest

end RollupWallet
