import Mathlib
import RollupWallet.Proofs.Amount.Packed
import RollupWallet.Proofs.Error

/-!
# Packing again, and the forty bits

What a packed form stands for can be packed again, and that keeps its value
(`PackedAmount.Fits.exists_repacked`, `packAmount_eq_self`).  It need not keep the form.  A zero of the
power of ten moves into the mantissa if there is room for it (`PackedAmount.HasRoom`), and this is the
only thing that can happen (`PackedAmount.ofNat?_toNat_eq_iff`).

One would expect packing to leave no such room, since it drops no digit without need.  It does so by
a hair: the first amounts that lose a digit leave `leastMantissa`, and what they lose is what made
them too long.  For every number of digits these are two units of the last digit that was dropped
(`PackedAmount.Packs.shrinks_iff`); all other packed forms are packed again as they are
(`PackedAmount.repacked_form`).

The forty bits are read and written without loss, as numbers and as words of 64 bits
(`PackedAmount.Fits.toNat_toWord`).  They distinguish more forms than packing yields, and each of
them stands for an amount that can be packed (`PackedAmount.bits_lossless`).
-/

namespace RollupWallet.PackedAmount

/-- The mantissa has 35 bits and the exponent 5. -/
structure Fits (packed : PackedAmount) : Prop where
  mantissa_le : packed.mantissa ≤ maxMantissa
  exponent_le : packed.exponent ≤ maxExponent

/-- A zero of the power of ten would fit in the mantissa. -/
def HasRoom (packed : PackedAmount) : Prop :=
  0 < packed.exponent ∧ 10 * packed.mantissa ≤ maxMantissa

theorem toBits_eq (packed : PackedAmount) :
    packed.toBits = packed.mantissa * 2 ^ 5 + packed.exponent := rfl

variable {packed : PackedAmount} {amount : ℕ}

theorem Fits.of_ofNat? (h : ofNat? amount = some packed) : packed.Fits := by
  obtain ⟨hle, hpacks⟩ := ofNat?_eq_some_iff.mp h
  exact ⟨hpacks.mantissa_le, hpacks.exponent_le_maxExponent hle⟩

theorem Fits.toNat_le (h : packed.Fits) : packed.toNat ≤ maxAmount :=
  Nat.mul_le_mul h.mantissa_le (Nat.pow_le_pow_right (by decide) h.exponent_le)

/-! ### Packing again -/

theorem toNat_div_pow {e : ℕ} (he : e ≤ packed.exponent) :
    packed.toNat / 10 ^ e = packed.mantissa * 10 ^ (packed.exponent - e) := by
  rw [toNat_eq, Nat.mul_div_assoc _ (Nat.pow_dvd_pow 10 he), Nat.pow_div he (by decide)]

theorem packs_toNat_iff (hfits : packed.mantissa ≤ maxMantissa) :
    packed.Packs packed.toNat ↔ ¬ packed.HasRoom := by
  constructor
  · rintro hpacks ⟨hpos, hroom⟩
    have hlarge := hpacks.least (packed.exponent - 1) (by omega)
    rw [toNat_div_pow (Nat.sub_le _ _), Nat.sub_sub_self hpos] at hlarge
    omega
  · intro hfull
    refine ⟨?_, hfits, ?_⟩
    · rw [toNat_div_pow le_rfl, Nat.sub_self, Nat.pow_zero, Nat.mul_one]
    · intro e he
      have hlarge : maxMantissa < 10 * packed.mantissa := by
        by_contra hroom
        exact hfull ⟨by omega, Nat.le_of_not_lt hroom⟩
      obtain ⟨k, hk⟩ : ∃ k, packed.exponent - e = k + 1 :=
        Nat.exists_eq_add_one.mpr (Nat.sub_pos_of_lt he)
      rw [toNat_div_pow he.le, hk]
      calc maxMantissa
          < packed.mantissa * 10 := by rwa [Nat.mul_comm]
        _ ≤ packed.mantissa * 10 ^ (k + 1) :=
            Nat.mul_le_mul_left _ (Nat.le_self_pow (Nat.succ_ne_zero k) 10)

/-- **A form is packed again as it is exactly if there is no room in its mantissa.** -/
theorem ofNat?_toNat_eq_iff (h : packed.Fits) :
    ofNat? packed.toNat = some packed ↔ ¬ packed.HasRoom := by
  rw [ofNat?_eq_some_iff, packs_toNat_iff h.mantissa_le]
  exact and_iff_right h.toNat_le

/-- **Packing again keeps the value.** -/
theorem Fits.exists_repacked (h : packed.Fits) :
    ∃ repacked, ofNat? packed.toNat = some repacked ∧ repacked.toNat = packed.toNat := by
  obtain ⟨repacked, hrepacked⟩ := exists_ofNat?_iff.mpr h.toNat_le
  refine ⟨repacked, hrepacked, ?_⟩
  have hpacks := (ofNat?_eq_some_iff.mp hrepacked).2
  have hexponent : repacked.exponent ≤ packed.exponent := by
    apply hpacks.isLeast.2
    rw [Set.mem_ofPred_eq, toNat_div_pow le_rfl, Nat.sub_self, Nat.pow_zero, Nat.mul_one]
    exact h.mantissa_le
  -- only zeros are dropped
  have hzeros : 10 ^ repacked.exponent ∣ packed.toNat :=
    Dvd.dvd.mul_left (Nat.pow_dvd_pow 10 hexponent) packed.mantissa
  rw [toNat_eq, hpacks.mantissa_eq, Nat.div_mul_cancel hzeros]

/-! ### The room that packing leaves -/

/-- A digit was dropped, and the smallest mantissa is left. -/
def Shrinks (packed : PackedAmount) : Prop :=
  0 < packed.exponent ∧ packed.mantissa = leastMantissa

theorem Packs.hasRoom_iff (hp : packed.Packs amount) : packed.HasRoom ↔ packed.Shrinks := by
  refine and_congr_right fun hpos => ?_
  have hle := hp.leastMantissa_le hpos
  rw [leastMantissa_eq] at hle ⊢
  rw [maxMantissa_eq]
  omega

theorem Shrinks.eq_of_toNat_eq {repacked : PackedAmount} (h : packed.Shrinks)
    (hrepacked : ofNat? packed.toNat = some repacked) :
    repacked = ⟨10 * leastMantissa, packed.exponent - 1⟩ := by
  obtain ⟨hpos, hmantissa⟩ := h
  obtain ⟨k, hk⟩ := Nat.exists_eq_add_one.mpr hpos
  refine (ofNat?_eq_some_iff.mp hrepacked).2.unique ?_
  have hvalue : packed.toNat = toNat ⟨10 * leastMantissa, packed.exponent - 1⟩ := by
    rw [toNat_eq, toNat_eq, hmantissa, hk, Nat.add_sub_cancel, Nat.pow_succ']
    ring
  have hfits : 10 * leastMantissa ≤ maxMantissa := by decide
  have hfull : ¬ 10 * (10 * leastMantissa) ≤ maxMantissa := by decide
  rw [hvalue, packs_toNat_iff hfits]
  exact fun hroom => hfull hroom.2

/-- **The amounts that leave room** are the first ones that are too long by a digit. -/
theorem Packs.shrinks_iff (hp : packed.Packs amount) :
    packed.Shrinks ↔ ∃ k, 34359738368 * 10 ^ k ≤ amount ∧ amount < 34359738370 * 10 ^ k := by
  constructor
  · rintro ⟨hpos, hmantissa⟩
    obtain ⟨k, hk⟩ := Nat.exists_eq_add_one.mpr hpos
    have hunit : 0 < 10 ^ k := Nat.pow_pos (by decide)
    have hlow : maxMantissa < amount / 10 ^ k := hp.least k (by omega)
    have hhigh : amount < (leastMantissa + 1) * 10 ^ packed.exponent := by
      rw [← Nat.div_lt_iff_lt_mul (Nat.pow_pos (by decide)), ← hp.mantissa_eq, hmantissa]
      exact Nat.lt_succ_self _
    refine ⟨k, (Nat.le_div_iff_mul_le hunit).mp hlow, ?_⟩
    rw [hk, leastMantissa_eq, Nat.pow_succ] at hhigh
    omega
  · rintro ⟨k, hlow, hhigh⟩
    have hunit : 0 < 10 ^ k := Nat.pow_pos (by decide)
    have hlow' : 34359738368 ≤ amount / 10 ^ k := (Nat.le_div_iff_mul_le hunit).mpr hlow
    have hhigh' : amount / 10 ^ k < 34359738370 := (Nat.div_lt_iff_lt_mul hunit).mpr hhigh
    have hnext : amount / 10 ^ (k + 1) = leastMantissa := by
      rw [Nat.pow_succ, ← Nat.div_div_eq_div_mul, leastMantissa_eq]
      omega
    -- one digit more than `k` is dropped, since `k` digits are too few and `k + 1` are enough
    have hle : packed.exponent ≤ k + 1 := by
      apply hp.isLeast.2
      rw [Set.mem_ofPred_eq, hnext]
      decide
    have hgt : k < packed.exponent := by
      by_contra hle
      have hfits := hp.mantissa_eq ▸ hp.mantissa_le
      have hmore : amount / 10 ^ k ≤ amount / 10 ^ packed.exponent :=
        Nat.div_le_div_left (Nat.pow_le_pow_right (by decide) (Nat.le_of_not_lt hle))
          (Nat.pow_pos (by decide))
      rw [maxMantissa_eq] at hfits
      omega
    have hexponent : packed.exponent = k + 1 := Nat.le_antisymm hle hgt
    exact ⟨by omega, by rw [hp.mantissa_eq, hexponent, hnext]⟩

/-- **The form of a packed amount, packed again.**  It stays, and so do its bits, unless a digit was
dropped and the smallest mantissa is left.  Then a zero moves into the mantissa, and the bits are
others.  This happens to the first two amounts that lose a digit, and to what begins with their
digits and is longer.  The value stays in every case. -/
theorem repacked_form (h : ofNat? amount = some packed) :
    (¬ packed.Shrinks → ofNat? packed.toNat = some packed) ∧
      (packed.Shrinks → ofNat? packed.toNat = some ⟨34359738360, packed.exponent - 1⟩) ∧
      (∀ repacked, ofNat? packed.toNat = some repacked → repacked.toNat = packed.toNat ∧
        (repacked.toBits = packed.toBits ↔ ¬ packed.Shrinks)) ∧
      (packed.Shrinks ↔ ∃ k, 34359738368 * 10 ^ k ≤ amount ∧ amount < 34359738370 * 10 ^ k) := by
  have hfits := Fits.of_ofNat? h
  have hpacks := (ofNat?_eq_some_iff.mp h).2
  obtain ⟨repacked, hrepacked, hvalue⟩ := hfits.exists_repacked
  have hkeeps : ¬ packed.Shrinks → ofNat? packed.toNat = some packed := by
    intro hnot
    rwa [ofNat?_toNat_eq_iff hfits, hpacks.hasRoom_iff]
  refine ⟨hkeeps, ?_, ?_, hpacks.shrinks_iff⟩
  · intro hshrinks
    rw [hrepacked, hshrinks.eq_of_toNat_eq hrepacked]
    rfl
  · intro other hother
    obtain rfl := Option.some.inj (hrepacked.symm.trans hother)
    refine ⟨hvalue, ?_, ?_⟩
    · -- the mantissa of the bits is ten times as large
      intro hbits hshrinks
      have hform := hshrinks.eq_of_toNat_eq hrepacked
      have hle : packed.exponent ≤ 31 := hfits.exponent_le
      simp only [toBits_eq, hform, hshrinks.2, leastMantissa_eq] at hbits
      omega
    · intro hnot
      rw [Option.some.inj (hrepacked.symm.trans (hkeeps hnot))]

/-- Two amounts next to each other: the first one is packed again in another form, and the second one
in the same. -/
theorem repacked_form_neighbours :
    ofNat? 343597383699 = some ⟨3435973836, 2⟩ ∧
      ofNat? (toNat ⟨3435973836, 2⟩) = some ⟨34359738360, 1⟩ ∧
      ofNat? 343597383700 = some ⟨3435973837, 2⟩ ∧
      ofNat? (toNat ⟨3435973837, 2⟩) = some ⟨3435973837, 2⟩ := by
  have hfirst : ofNat? 343597383699 = some ⟨3435973836, 2⟩ := by decide +kernel
  have hsecond : ofNat? 343597383700 = some ⟨3435973837, 2⟩ := by decide +kernel
  obtain ⟨_, hother, _, _⟩ := repacked_form hfirst
  obtain ⟨hsame, _, _, _⟩ := repacked_form hsecond
  exact ⟨hfirst, hother ⟨by decide, by decide⟩, hsecond, hsame fun h => absurd h.2 (by decide)⟩

/-- The first amount that loses a digit has other bits than what it is rounded to. -/
theorem repacked_bits_ne :
    ofNat? 34359738368 = some ⟨3435973836, 1⟩ ∧
      ofNat? (toNat ⟨3435973836, 1⟩) = some ⟨34359738360, 0⟩ ∧
      toBits ⟨34359738360, 0⟩ ≠ toBits ⟨3435973836, 1⟩ := by
  decide +kernel

/-! ### Forty bits -/

/-- The bits in a word: the mantissa is shifted over the exponent. -/
def toWord (packed : PackedAmount) : UInt64 :=
  UInt64.ofNat packed.mantissa <<< 5 ||| UInt64.ofNat packed.exponent

theorem Fits.toBits_lt (h : packed.Fits) : packed.toBits < 2 ^ 40 := by
  have hmantissa : packed.mantissa ≤ 34359738367 := h.mantissa_le
  have hexponent : packed.exponent ≤ 31 := h.exponent_le
  rw [toBits_eq]
  omega

/-- The parts of the bits are the mantissa and the exponent. -/
theorem Fits.toBits_parts (h : packed.Fits) :
    packed.toBits / 2 ^ 5 = packed.mantissa ∧ packed.toBits % 2 ^ 5 = packed.exponent := by
  have hexponent : packed.exponent ≤ 31 := h.exponent_le
  rw [toBits_eq]
  omega

/-- Nothing is shifted out of the word, and the exponent stays below the mantissa. -/
theorem Fits.toNat_toWord (h : packed.Fits) : packed.toWord.toNat = packed.toBits := by
  have hmantissa : packed.mantissa ≤ 34359738367 := h.mantissa_le
  have hexponent : packed.exponent ≤ 31 := h.exponent_le
  have hsize : UInt64.size = 18446744073709551616 := rfl
  have hlow : packed.exponent < 2 ^ 5 := by omega
  have hshifted : (UInt64.ofNat packed.mantissa <<< 5).toNat = packed.mantissa <<< 5 := by
    rw [UInt64.toNat_shiftLeft, UInt64.toNat_ofNat_of_lt' (by omega)]
    apply Nat.mod_eq_of_lt
    show packed.mantissa <<< 5 < 2 ^ 64
    rw [Nat.shiftLeft_eq]
    omega
  rw [toWord, UInt64.toNat_or, hshifted, UInt64.toNat_ofNat_of_lt' (by omega),
    ← Nat.shiftLeft_add_eq_or_of_lt hlow, Nat.shiftLeft_eq, toBits_eq]

/-- **The forms that are read from bits** are those that fit, each from its own bits. -/
theorem ofBits_eq_ok_iff {bits : ℕ} :
    ofBits bits = .ok packed ↔ packed.Fits ∧ packed.toBits = bits := by
  have hpow : Nat.pow 2 5 = 32 := rfl
  unfold ofBits
  rw [hpow]
  split
  · next hlarge =>
    refine ⟨nofun, fun ⟨hfits, hbits⟩ => absurd hfits.mantissa_le (Nat.not_le_of_lt ?_)⟩
    have hexponent : packed.exponent ≤ 31 := hfits.exponent_le
    rw [toBits_eq] at hbits
    omega
  · next hsmall =>
    rw [Except.ok.injEq]
    constructor
    · rintro rfl
      refine ⟨⟨Nat.le_of_not_lt hsmall, ?_⟩, ?_⟩
      · exact Nat.le_of_lt_succ (Nat.mod_lt bits (by decide))
      · exact Nat.div_add_mod' bits 32
    · rintro ⟨hfits, rfl⟩
      obtain ⟨hmantissa, hexponent⟩ := hfits.toBits_parts
      rw [show 32 = 2 ^ 5 from rfl, hmantissa, hexponent]

theorem exists_ofBits_iff {bits : ℕ} : (∃ packed, ofBits bits = .ok packed) ↔ bits < 2 ^ 40 := by
  constructor
  · rintro ⟨packed, h⟩
    obtain ⟨hfits, rfl⟩ := ofBits_eq_ok_iff.mp h
    exact hfits.toBits_lt
  · intro hlt
    refine ⟨⟨bits / 32, bits % 32⟩, ofBits_eq_ok_iff.mpr ⟨⟨?_, ?_⟩, Nat.div_add_mod' bits 32⟩⟩
    · show bits / 32 ≤ 34359738367
      omega
    · exact Nat.le_of_lt_succ (Nat.mod_lt bits (by decide))

/-- The parts that are read from a word are its upper bits and its lower five. -/
theorem parts_of_ofBits {bits : UInt64} (h : ofBits bits.toNat = .ok packed) :
    packed.mantissa = (bits >>> 5).toNat ∧ packed.exponent = (bits &&& 31).toNat := by
  obtain ⟨hfits, hbits⟩ := ofBits_eq_ok_iff.mp h
  obtain ⟨hmantissa, hexponent⟩ := hfits.toBits_parts
  have hupper : (bits >>> 5).toNat = bits.toNat / 2 ^ 5 := by
    rw [UInt64.toNat_shiftRight, Nat.shiftRight_eq_div_pow]
    rfl
  have hlower : (bits &&& 31).toNat = bits.toNat % 2 ^ 5 := by
    rw [UInt64.toNat_and]
    exact Nat.and_two_pow_sub_one_eq_mod bits.toNat 5
  rw [hupper, hlower, ← hbits]
  exact ⟨hmantissa.symm, hexponent.symm⟩

/-- **The bits lose nothing.**  A word is read exactly if it has forty bits, by shifts and masks, and
is written again as it was.  Every form that packing or reading yields is written in forty bits of a
word, without overflow, and read again.  And what any forty bits stand for can be packed: the value
stays, and so does the form unless there is room in its mantissa. -/
theorem bits_lossless :
    (∀ bits : UInt64, ((∃ packed, ofBits bits.toNat = .ok packed) ↔ bits.toNat < 2 ^ 40) ∧
        ∀ packed, ofBits bits.toNat = .ok packed →
          packed.mantissa = (bits >>> 5).toNat ∧ packed.exponent = (bits &&& 31).toNat ∧
            packed.toBits = bits.toNat) ∧
      (∀ packed, ((∃ amount, ofNat? amount = some packed) ∨ ∃ bits, ofBits bits = .ok packed) →
        packed.toBits < 2 ^ 40 ∧ packed.toWord.toNat = packed.toBits ∧
          ofBits packed.toBits = .ok packed) ∧
      ∀ bits < 2 ^ 40, ∃ packed repacked, ofBits bits = .ok packed ∧
        ofNat? packed.toNat = some repacked ∧ repacked.toNat = packed.toNat ∧
        (repacked = packed ↔ ¬ packed.HasRoom) := by
  refine ⟨fun bits => ⟨exists_ofBits_iff, fun packed h => ?_⟩, fun packed h => ?_, fun bits h => ?_⟩
  · obtain ⟨hmantissa, hexponent⟩ := parts_of_ofBits h
    exact ⟨hmantissa, hexponent, (ofBits_eq_ok_iff.mp h).2⟩
  · have hfits : packed.Fits := by
      rcases h with ⟨amount, h⟩ | ⟨bits, h⟩
      · exact Fits.of_ofNat? h
      · exact (ofBits_eq_ok_iff.mp h).1
    exact ⟨hfits.toBits_lt, hfits.toNat_toWord, ofBits_eq_ok_iff.mpr ⟨hfits, rfl⟩⟩
  · obtain ⟨packed, hpacked⟩ := exists_ofBits_iff.mpr h
    have hfits := (ofBits_eq_ok_iff.mp hpacked).1
    obtain ⟨repacked, hrepacked, hvalue⟩ := hfits.exists_repacked
    refine ⟨packed, repacked, hpacked, hrepacked, hvalue, ?_⟩
    rw [← ofNat?_toNat_eq_iff hfits, hrepacked, Option.some.injEq]

/-- Ten to the power of 31 in the form that no packing yields: read from its bits, and packed. -/
theorem bits_lossless_power :
    ofBits 63 = .ok ⟨1, 31⟩ ∧ ofNat? (toNat ⟨1, 31⟩) = some ⟨10000000000, 21⟩ ∧
      toNat ⟨10000000000, 21⟩ = toNat ⟨1, 31⟩ ∧ toBits ⟨1, 31⟩ = 63 ∧
      (toWord ⟨1, 31⟩).toNat = 63 := by
  have hread : ofBits 63 = .ok ⟨1, 31⟩ := by decide +kernel
  have hform : ofNat? (toNat ⟨1, 31⟩) = some ⟨10000000000, 21⟩ := by decide +kernel
  obtain ⟨hwords, hwritten, hpacked⟩ := bits_lossless
  obtain ⟨_, _, hbits⟩ := (hwords 63).2 ⟨1, 31⟩ hread
  obtain ⟨_, hword, _⟩ := hwritten ⟨1, 31⟩ (Or.inr ⟨63, hread⟩)
  obtain ⟨packed, repacked, hfound, hrepacked, hvalue, _⟩ := hpacked 63 (by decide)
  obtain rfl := Except.ok.inj (hread.symm.trans hfound)
  obtain rfl := Option.some.inj (hform.symm.trans hrepacked)
  exact ⟨hread, hform, hvalue, hbits, hword.trans hbits⟩

end RollupWallet.PackedAmount

namespace RollupWallet

/-! ### Packed values -/

theorem packAmount_eq_ok_iff {amount value : ℕ} :
    packAmount amount = .ok value ↔
      ∃ packed, PackedAmount.ofNat? amount = some packed ∧ packed.toNat = value := by
  unfold packAmount PackedAmount.pack
  rw [map_eq_ok]
  cases PackedAmount.ofNat? amount with
  | none => exact iff_of_false nofun nofun
  | some packed => simp only [Except.ok.injEq, Option.some.injEq]

/-- A packed value is packed as it is. -/
theorem packAmount_eq_self {amount value : ℕ} (h : packAmount amount = .ok value) :
    packAmount value = .ok value := by
  obtain ⟨packed, hpacked, rfl⟩ := packAmount_eq_ok_iff.mp h
  exact packAmount_eq_ok_iff.mpr (PackedAmount.Fits.of_ofNat? hpacked).exists_repacked

end RollupWallet
