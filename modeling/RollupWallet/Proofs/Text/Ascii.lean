import Mathlib
import RollupWallet.Text.Utf8

/-!
# ASCII text

The UTF-8 form of a string is that of its characters one after the other (`utf8_ofList`), and a
character below 128 is its own code.  So a string and its bytes are the same thing as long as both
stay in that range (`utf8_ofAscii`), and the bytes are read as the string of those characters
(`ofUtf8?_of_ascii`).
-/

namespace RollupWallet.Text

theorem utf8_ofList (chars : List Char) :
    utf8 (String.ofList chars) = chars.flatMap String.utf8EncodeChar := by
  rw [utf8, String.toByteArray_ofList, List.utf8Encode, List.data_toByteArray]

theorem utf8_append (s t : String) : utf8 (s ++ t) = utf8 s ++ utf8 t := by
  rw [← String.ofList_toList (s := s), ← String.ofList_toList (s := t), ← String.ofList_append,
    utf8_ofList, utf8_ofList, utf8_ofList, List.flatMap_append]

theorem utf8_injective : Function.Injective utf8 := by
  intro s t h
  rw [← Option.some.injEq, ← ofUtf8?_utf8, h, ofUtf8?_utf8]

/-- A character below 128 takes one byte, which is its code. -/
theorem utf8EncodeChar_ascii {c : Char} (hc : c.toNat < 128) :
    String.utf8EncodeChar c = [UInt8.ofNat c.toNat] := by
  have hsize : c.utf8Size = 1 := by
    have hval : c.val ≤ 0x7f := by
      rw [UInt32.le_iff_toNat_le]
      exact Nat.le_of_lt_succ hc
    exact if_pos hval
  rw [String.utf8EncodeChar_eq_singleton hsize]
  rfl

theorem utf8_ofList_ascii {chars : List Char} (h : ∀ c ∈ chars, c.toNat < 128) :
    utf8 (String.ofList chars) = chars.map fun c => UInt8.ofNat c.toNat := by
  rw [utf8_ofList]
  induction chars with
  | nil => rfl
  | cons c chars ih =>
      rw [List.flatMap_cons, List.map_cons, utf8EncodeChar_ascii (h c (by simp)),
        ih fun c' hc' => h c' (by simp [hc'])]
      rfl

/-- The character of a byte below 128 has the byte for its code. -/
theorem toNat_ofNat_byte {byte : UInt8} (h : byte < 128) :
    (Char.ofNat byte.toNat).toNat = byte.toNat := by
  have hlt : byte.toNat < 128 := by
    simpa [UInt8.lt_iff_toNat_lt] using h
  have hvalid : byte.toNat.isValidChar := Or.inl (by omega)
  rw [Char.ofNat, dif_pos hvalid]
  exact Char.toNat_ofNatAux hvalid

/-- **Bytes below 128 are the UTF-8 form of the string that has them for its characters.** -/
theorem utf8_ofAscii {bytes : Bytes} (h : ∀ byte ∈ bytes, byte < 128) :
    utf8 (ofAscii bytes) = bytes := by
  have hchars : ∀ c ∈ bytes.map fun byte => Char.ofNat byte.toNat, c.toNat < 128 := by
    intro c hc
    obtain ⟨byte, hbyte, rfl⟩ := List.mem_map.mp hc
    rw [toNat_ofNat_byte (h byte hbyte)]
    simpa [UInt8.lt_iff_toNat_lt] using h byte hbyte
  rw [ofAscii, utf8_ofList_ascii hchars, List.map_map]
  calc bytes.map ((fun c => UInt8.ofNat c.toNat) ∘ fun byte => Char.ofNat byte.toNat)
      = bytes.map id := by
        refine List.map_congr_left fun byte hbyte => ?_
        show UInt8.ofNat (Char.ofNat byte.toNat).toNat = byte
        rw [toNat_ofNat_byte (h byte hbyte), UInt8.ofNat_toNat]
    _ = bytes := List.map_id bytes

theorem ofUtf8?_of_ascii {bytes : Bytes} (h : ∀ byte ∈ bytes, byte < 128) :
    ofUtf8? bytes = some (ofAscii bytes) := by
  have hread := ofUtf8?_utf8 (ofAscii bytes)
  rw [utf8_ofAscii h] at hread
  exact hread

end RollupWallet.Text
