import Mathlib
import RollupWallet.Bytes.Lemmas
import RollupWallet.Field.Lemmas

/-!
# Bytes and the numbers they write

Writing a number and reading it gives the number up to the width (`Bytes.toNat_ofNat`).  Here is the
other direction: bytes are written again from the number that they write, so among strings of one
length the number determines the bytes (`FixedBytes.toNat_injective`).
-/

namespace RollupWallet

namespace Bytes

theorem toNat_singleton (byte : UInt8) : toNat [byte] = byte.toNat := by
  rw [← List.nil_append [byte], toNat_append_singleton, toNat_nil, zero_mul, zero_add]

theorem toNatLE_ofNatLE (width value : ℕ) :
    toNatLE (ofNatLE width value) = value % 256 ^ width := by
  rw [toNatLE, ofNatLE, List.reverse_reverse, toNat_ofNat]

theorem toNatLE_cons (byte : UInt8) (bytes : Bytes) :
    toNatLE (byte :: bytes) = 256 * toNatLE bytes + byte.toNat := by
  rw [toNatLE, List.reverse_cons, toNat_append_singleton, mul_comm, toNatLE]

theorem toNatLE_drop (count : ℕ) (bytes : Bytes) :
    toNatLE (bytes.drop count) = toNatLE bytes / 256 ^ count := by
  induction count generalizing bytes with
  | zero => rw [List.drop_zero, pow_zero, Nat.div_one]
  | succ count ih =>
      cases bytes with
      | nil => rw [List.drop_nil, toNatLE, List.reverse_nil, toNat_nil, Nat.zero_div]
      | cons byte bytes =>
          have hlt := byte.toNat_lt
          have hquot : (256 * toNatLE bytes + byte.toNat) / 256 = toNatLE bytes := by omega
          rw [List.drop_succ_cons, ih, toNatLE_cons, pow_succ', ← Nat.div_div_eq_div_mul, hquot]

theorem toNatLE_take (count : ℕ) (bytes : Bytes) :
    toNatLE (bytes.take count) = toNatLE bytes % 256 ^ count := by
  induction count generalizing bytes with
  | zero => rw [List.take_zero, pow_zero, Nat.mod_one, toNatLE, List.reverse_nil, toNat_nil]
  | succ count ih =>
      cases bytes with
      | nil => rw [List.take_nil, toNatLE, List.reverse_nil, toNat_nil, Nat.zero_mod]
      | cons byte bytes =>
          have hlt := byte.toNat_lt
          have hquot : (256 * toNatLE bytes + byte.toNat) / 256 = toNatLE bytes := by omega
          have hrest : (256 * toNatLE bytes + byte.toNat) % 256 = byte.toNat := by omega
          rw [List.take_succ_cons, toNatLE_cons, ih, toNatLE_cons, pow_succ', Nat.mod_mul, hquot,
            hrest, add_comm]

/-- Bytes are written again from the number that they write. -/
theorem ofNat_toNat (bytes : Bytes) : ofNat bytes.length (toNat bytes) = bytes := by
  induction bytes using List.reverseRecOn with
  | nil => rfl
  | append_singleton bytes byte ih =>
      have hlt := byte.toNat_lt
      have hquot : (toNat bytes * 256 + byte.toNat) / 256 = toNat bytes := by omega
      have hbyte : UInt8.ofNat ((toNat bytes * 256 + byte.toNat) % 256) = byte := by
        rw [Nat.mul_add_mod_self_right, Nat.mod_eq_of_lt hlt, UInt8.ofNat_toNat]
      rw [List.length_append, List.length_singleton, toNat_append_singleton, ofNat, hquot, ih,
        hbyte]

theorem ofNat_toNat_of_length {width : ℕ} {bytes : Bytes} (h : bytes.length = width) :
    ofNat width (toNat bytes) = bytes := by
  subst h
  exact ofNat_toNat bytes

/-- Among strings of one length the number determines the bytes. -/
theorem eq_of_toNat_eq {a b : Bytes} (hlength : a.length = b.length) (h : toNat a = toNat b) :
    a = b := by
  rw [← ofNat_toNat a, ← ofNat_toNat b, hlength, h]

end Bytes

namespace FixedBytes

variable {n : ℕ}

/-- A word is read from its own bytes only. -/
theorem ofBytes?_eq_some_iff {bytes : Bytes} {word : FixedBytes n} :
    ofBytes? n bytes = some word ↔ word.bytes = bytes := by
  constructor
  · intro h
    rw [ofBytes?, Option.dite_none_right_eq_some] at h
    obtain ⟨hlength, heq⟩ := h
    rw [← Option.some.inj heq]
  · rintro rfl
    exact ofBytes?_bytes word

/-- The number that a word stands for determines the word. -/
theorem toNat_injective : Function.Injective (toNat : FixedBytes n → ℕ) := by
  intro a b h
  have hlength := a.length_eq.trans b.length_eq.symm
  exact FixedBytes.ext (Bytes.eq_of_toNat_eq hlength h)

/-- So does the number that its bytes write in the other order. -/
theorem eq_of_toNatLE_eq {a b : FixedBytes n}
    (h : Bytes.toNatLE a.bytes = Bytes.toNatLE b.bytes) : a = b := by
  have hlength : a.bytes.reverse.length = b.bytes.reverse.length := by
    rw [List.length_reverse, List.length_reverse, a.length_eq, b.length_eq]
  exact FixedBytes.ext (List.reverse_injective (Bytes.eq_of_toNat_eq hlength h))

theorem toNatLE_lt (word : FixedBytes n) : Bytes.toNatLE word.bytes < 256 ^ n := by
  have h := Bytes.toNat_lt word.bytes.reverse
  rw [List.length_reverse, word.length_eq] at h
  exact h

end FixedBytes

/-- An element is read from the bytes that it is written as and from no others. -/
theorem Felt.ofBytes32?_eq_some_iff {word : Bytes32} {x : Felt} :
    ofBytes32? word = some x ↔ word = x.toBytes32 := by
  rw [ofBytes32?, ofNat?_eq_some_iff, ← toNat_toBytes32]
  exact FixedBytes.toNat_injective.eq_iff

theorem Felt.toBytes32_injective : Function.Injective toBytes32 := by
  intro x y h
  rw [← Option.some.injEq, ← ofBytes32?_toBytes32, h, ofBytes32?_toBytes32]

end RollupWallet
