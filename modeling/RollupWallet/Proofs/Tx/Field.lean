import Mathlib
import RollupWallet.Field.Lemmas
import RollupWallet.Proofs.Bytes
import RollupWallet.Tx.Table

/-!
# Elements determine the values they stand for

Every value that is encoded stands for a number (`FieldValue.number`): a tag, the integer itself, the
packed amount, or the number that bytes write.  Encoding checks that the value is in range
(`FieldValue.InRange`) and gives the element of that number (`FieldValue.encode_eq_ok`), which is
always one that the sponge takes (`FieldValue.isCanonical_of_encode`).  Ranges are such that the
number determines the value among those of one meaning, up to what encoding drops on purpose: the
digits that packing an amount rounds away, and what a digest does not keep of its bytes
(`FieldValue.Agrees`, `FieldValue.agrees_of_encode_eq`).
-/

namespace RollupWallet

/-- The amount that is hashed for an amount, if it can be packed. -/
def packedValue? (amount : ℕ) : Option ℕ := (PackedAmount.ofNat? amount).map PackedAmount.toNat

namespace FieldValue

/-- Two values are hashed alike: amounts in their packed value, bytes in their digest, and all
others entirely. -/
def Agrees : FieldValue → FieldValue → Prop
  | amount a, amount b => packedValue? a = packedValue? b
  | blob a, blob b => Hash.mimc a = Hash.mimc b
  | v, w => v = w

/-- The number that a value stands for. -/
def number : FieldValue → ℕ
  | kind value => value.tag
  | accountIndex value => value.toInt.toNat
  | assetId value => value.toInt.toNat
  | nftIndex value => value.toInt.toNat
  | offerId value => value.toInt.toNat
  | collectionId value => value.toInt.toNat
  | counter value => value.toInt.toNat
  | rate value => value.toInt.toNat
  | amount value => (packedValue? value).getD 0
  | hash value => value.toNat
  | flag value => value.toNat
  | address value => value.toNat
  | blob value => (Hash.mimc value).toNat

/-- What every value in range satisfies: integers are not negative, and amounts can be packed. -/
def InRange : FieldValue → Prop
  | accountIndex value => 0 ≤ value.toInt
  | assetId value => 0 ≤ value.toInt
  | nftIndex value => 0 ≤ value.toInt
  | offerId value => 0 ≤ value.toInt
  | collectionId value => 0 ≤ value.toInt
  | counter value => 0 ≤ value.toInt
  | rate value => 0 ≤ value.toInt
  | amount value => (packedValue? value).isSome
  | _ => True

/-! ### Encoding a value -/

theorem toNat_word {n : ℕ} (h : n < 256 ^ 32) : (word n).toNat = n := by
  rw [word, FixedBytes.toNat_ofNat, Nat.mod_eq_of_lt h]

theorem toNat_word_int64 (value : Int64) : (word value.toInt.toNat).toNat = value.toInt.toNat := by
  apply toNat_word
  have hlt := value.toInt_lt
  omega

theorem nonNegative_eq_ok {name : String} {value : Int64} {n : ℕ}
    (h : nonNegative name value = .ok n) : 0 ≤ value.toInt ∧ n = value.toInt.toNat := by
  unfold nonNegative at h
  split at h
  · cases h
  · next hneg =>
    rw [Int64.lt_iff_toInt_lt, Int64.toInt_zero, not_lt] at hneg
    exact ⟨hneg, (Except.ok.inj h).symm⟩

theorem bounded_eq_ok {bits : ℕ} {name : String} {value : Int64} {element : Bytes32}
    (h : bounded bits name value = .ok element) :
    0 ≤ value.toInt ∧ element.toNat = value.toInt.toNat := by
  unfold bounded at h
  cases hn : nonNegative name value with
  | error e => rw [hn] at h; cases h
  | ok n =>
      obtain ⟨hpos, rfl⟩ := nonNegative_eq_ok hn
      rw [hn] at h
      change (if _ then _ else _) = _ at h
      split at h
      · cases h
      · rw [← Except.ok.inj h]
        exact ⟨hpos, toNat_word_int64 value⟩

theorem amount_eq_ok {name : String} {value : ℕ} {element : Bytes32}
    (h : (amount value).encode name = .ok element) :
    (packedValue? value).isSome ∧ element.toNat = (packedValue? value).getD 0 ∧
      element.toNat < fieldModulus := by
  unfold packedValue?
  simp only [encode, PackedAmount.pack] at h
  cases hpacked : PackedAmount.ofNat? value with
  | none => rw [hpacked] at h; cases h
  | some packed =>
      rw [hpacked] at h
      simp only [bind, Except.bind] at h
      cases hx : Felt.ofNat? packed.toNat with
      | none => rw [hx] at h; cases h
      | some x =>
          rw [hx] at h
          rw [← Except.ok.inj h, Felt.toNat_toBytes32]
          exact ⟨rfl, (Felt.ofNat?_eq_some_iff.mp hx).symm, x.isLt⟩

/-- **The element of a value is that of its number, and the value is in range.** -/
theorem encode_eq_ok {name : String} {value : FieldValue} {element : Bytes32}
    (h : value.encode name = .ok element) : value.InRange ∧ element.toNat = value.number := by
  cases value with
  | kind value =>
      rw [← Except.ok.inj h]
      refine ⟨trivial, toNat_word ?_⟩
      cases value <;> decide
  | accountIndex value => exact bounded_eq_ok h
  | assetId value => exact bounded_eq_ok h
  | nftIndex value => exact bounded_eq_ok h
  | offerId value => exact bounded_eq_ok h
  | collectionId value => exact bounded_eq_ok h
  | counter value =>
      change word <$> nonNegative name value = _ at h
      cases hn : nonNegative name value with
      | error e => rw [hn] at h; cases h
      | ok n =>
          obtain ⟨hpos, rfl⟩ := nonNegative_eq_ok hn
          rw [hn] at h
          rw [← Except.ok.inj h]
          exact ⟨hpos, toNat_word_int64 value⟩
  | rate value =>
      change (if isRate value = true then _ else _) = _ at h
      split at h
      · next hrate =>
        rw [isRate, Bool.and_eq_true, decide_eq_true_eq] at hrate
        rw [← Except.ok.inj h]
        exact ⟨hrate.1, toNat_word_int64 value⟩
      · cases h
  | amount value =>
      obtain ⟨hsome, hnumber, _⟩ := amount_eq_ok h
      exact ⟨hsome, hnumber⟩
  | hash value =>
      change (if _ then _ else _) = _ at h
      split at h
      · rw [← Except.ok.inj h]
        exact ⟨trivial, rfl⟩
      · cases h
  | flag value =>
      rw [← Except.ok.inj h]
      refine ⟨trivial, toNat_word ?_⟩
      cases value <;> decide
  | address value =>
      rw [← Except.ok.inj h]
      refine ⟨trivial, toNat_word ?_⟩
      exact Nat.lt_trans value.toNat_lt (by decide)
  | blob value =>
      rw [← Except.ok.inj h]
      exact ⟨trivial, rfl⟩

theorem toNat_digest_lt (sponge : Hash.Sponge) : sponge.digest.toNat < fieldModulus := by
  rw [Hash.Sponge.digest, Hash.Sponge.sum, Felt.toNat_toBytes32]
  exact Fin.isLt _

theorem toNat_mimc_lt (bytes : Bytes) : (Hash.mimc bytes).toNat < fieldModulus :=
  toNat_digest_lt _

/-- Every element is one that the sponge takes. -/
theorem isCanonical_of_encode {name : String} {value : FieldValue} {element : Bytes32}
    (h : value.encode name = .ok element) : element.isCanonical = true := by
  have hint : ∀ value : Int64, value.toInt.toNat < fieldModulus := by
    intro value
    have hlt : value.toInt.toNat < 2 ^ 63 := by
      have := value.toInt_lt
      omega
    exact Nat.lt_trans hlt (by decide)
  have hnumber := (encode_eq_ok h).2
  apply decide_eq_true
  -- only an amount and a hash could exceed the modulus, and encoding checks both
  cases value with
  | kind value =>
      rw [hnumber]
      cases value <;> decide
  | accountIndex value => exact hnumber ▸ hint value
  | assetId value => exact hnumber ▸ hint value
  | nftIndex value => exact hnumber ▸ hint value
  | offerId value => exact hnumber ▸ hint value
  | collectionId value => exact hnumber ▸ hint value
  | counter value => exact hnumber ▸ hint value
  | rate value => exact hnumber ▸ hint value
  | amount value => exact (amount_eq_ok h).2.2
  | hash value =>
      change (if value.isCanonical = true then _ else _) = _ at h
      split at h
      · next hcanonical =>
        rw [← Except.ok.inj h]
        exact of_decide_eq_true hcanonical
      · cases h
  | flag value =>
      rw [hnumber]
      cases value <;> decide
  | address value =>
      rw [hnumber]
      exact Nat.lt_trans value.toNat_lt (by decide)
  | blob value =>
      rw [hnumber]
      exact toNat_mimc_lt value

/-! ### Values from numbers -/

theorem int64_eq_of_toNat_eq {a b : Int64} (ha : 0 ≤ a.toInt) (hb : 0 ≤ b.toInt)
    (h : a.toInt.toNat = b.toInt.toNat) : a = b := by
  apply Int64.toInt_inj.mp
  omega

/-- Among the values of one meaning, the number determines what is hashed of a value. -/
theorem agrees_of_number_eq {v w : FieldValue} (hmeaning : v.meaning = w.meaning)
    (hv : v.InRange) (hw : w.InRange) (h : v.number = w.number) : v.Agrees w := by
  cases v with
  | kind a =>
      cases w with
      | kind b =>
          have htag : some a = some b := by
            rw [← TxKind.ofTag?_tag a, ← TxKind.ofTag?_tag b]
            exact congrArg TxKind.ofTag? h
          exact congrArg kind (Option.some.inj htag)
      | _ => simp [meaning] at hmeaning
  | accountIndex a =>
      cases w with
      | accountIndex b => exact congrArg accountIndex (int64_eq_of_toNat_eq hv hw h)
      | _ => simp [meaning] at hmeaning
  | assetId a =>
      cases w with
      | assetId b => exact congrArg assetId (int64_eq_of_toNat_eq hv hw h)
      | _ => simp [meaning] at hmeaning
  | nftIndex a =>
      cases w with
      | nftIndex b => exact congrArg nftIndex (int64_eq_of_toNat_eq hv hw h)
      | _ => simp [meaning] at hmeaning
  | offerId a =>
      cases w with
      | offerId b => exact congrArg offerId (int64_eq_of_toNat_eq hv hw h)
      | _ => simp [meaning] at hmeaning
  | collectionId a =>
      cases w with
      | collectionId b => exact congrArg collectionId (int64_eq_of_toNat_eq hv hw h)
      | _ => simp [meaning] at hmeaning
  | counter a =>
      cases w with
      | counter b => exact congrArg counter (int64_eq_of_toNat_eq hv hw h)
      | _ => simp [meaning] at hmeaning
  | rate a =>
      cases w with
      | rate b => exact congrArg rate (int64_eq_of_toNat_eq hv hw h)
      | _ => simp [meaning] at hmeaning
  | amount a =>
      cases w with
      | amount b =>
          -- both amounts can be packed, so their numbers are their packed values
          obtain ⟨m, hm⟩ := Option.isSome_iff_exists.mp hv
          obtain ⟨n, hn⟩ := Option.isSome_iff_exists.mp hw
          show packedValue? a = packedValue? b
          simp only [number, hm, hn, Option.getD_some] at h
          rw [hm, hn, h]
      | _ => simp [meaning] at hmeaning
  | hash a =>
      cases w with
      | hash b => exact congrArg hash (FixedBytes.toNat_injective h)
      | _ => simp [meaning] at hmeaning
  | flag a =>
      cases w with
      | flag b =>
          refine congrArg flag ?_
          cases a <;> cases b <;> first | rfl | exact absurd h (by decide)
      | _ => simp [meaning] at hmeaning
  | address a =>
      cases w with
      | address b => exact congrArg address (FixedBytes.toNat_injective h)
      | _ => simp [meaning] at hmeaning
  | blob a =>
      cases w with
      | blob b => exact FixedBytes.toNat_injective h
      | _ => simp [meaning] at hmeaning

/-- **Encoding binds.**  Two values of one meaning with one element are hashed alike. -/
theorem agrees_of_encode_eq {v w : FieldValue} {name : String} {element : Bytes32}
    (hmeaning : v.meaning = w.meaning) (hv : v.encode name = .ok element)
    (hw : w.encode name = .ok element) : v.Agrees w := by
  obtain ⟨hvrange, hvnumber⟩ := encode_eq_ok hv
  obtain ⟨hwrange, hwnumber⟩ := encode_eq_ok hw
  exact agrees_of_number_eq hmeaning hvrange hwrange (hvnumber.symm.trans hwnumber)

end FieldValue

end RollupWallet
