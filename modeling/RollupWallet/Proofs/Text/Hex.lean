import Mathlib
import RollupWallet.Digest
import RollupWallet.Proofs.Text.Ascii

/-!
# Hexadecimal text reads back what it writes

Digits are ASCII characters and none of them is the letter of a mark, so a reader that takes a mark
off the front takes nothing off plain digits (`Hex.stripMark_encode`).  With the round trip of the
digits themselves a digest is read back from its text (`bytes32OfHex_hex`).
-/

namespace RollupWallet

namespace Text.Hex

/-- What is written consists of digits. -/
theorem mem_encode {bytes : Bytes} {byte : UInt8} (h : byte ∈ encode bytes) :
    ∃ n < 16, byte = digit n := by
  obtain ⟨b, _, hb⟩ := List.mem_flatMap.mp h
  have hlt := b.toNat_lt
  simp only [List.mem_cons, List.not_mem_nil, or_false] at hb
  rcases hb with rfl | rfl
  · exact ⟨_, by omega, rfl⟩
  · exact ⟨_, by omega, rfl⟩

theorem digit_ascii : ∀ n < 16, digit n < 128 := by decide

theorem digit_ne_mark : ∀ n < 16, digit n ≠ 120 := by decide

theorem ne_mark_of_mem_encode {bytes : Bytes} {byte : UInt8} (h : byte ∈ encode bytes) :
    byte ≠ 120 := by
  obtain ⟨n, hn, rfl⟩ := mem_encode h
  exact digit_ne_mark n hn

/-- Digits are not taken for a mark. -/
theorem encode_ne_marked (bytes rest : Bytes) : encode bytes ≠ 48 :: 120 :: rest := by
  intro heq
  have hmem : (120 : UInt8) ∈ encode bytes := by
    rw [heq]
    exact List.mem_cons_of_mem _ List.mem_cons_self
  exact absurd rfl (ne_mark_of_mem_encode hmem)

theorem stripMark_encode (bytes : Bytes) : stripMark (encode bytes) = encode bytes := by
  unfold stripMark
  split
  · next rest heq => exact absurd heq (encode_ne_marked bytes rest)
  · rfl

theorem stripMarks_encode (bytes : Bytes) : stripMarks (encode bytes) = encode bytes := by
  unfold stripMarks
  split
  · next rest heq => exact absurd heq (encode_ne_marked bytes rest)
  · rfl

theorem encode_injective : Function.Injective encode := by
  intro a b h
  have hread : (Except.ok a : Except HexFault Bytes) = .ok b := by
    rw [← decode_encode, h, decode_encode]
  exact Except.ok.inj hread

theorem utf8_text (bytes : Bytes) : utf8 (text bytes) = encode bytes := by
  refine utf8_ofAscii fun byte hbyte => ?_
  obtain ⟨n, hn, rfl⟩ := mem_encode hbyte
  exact digit_ascii n hn

end Text.Hex

/-- **A digest is read back from its text.** -/
theorem bytes32OfHex_hex (word : Bytes32) : bytes32OfHex word.hex = .ok word := by
  have hne : Text.Hex.encode word.bytes ≠ [] := by
    apply List.ne_nil_of_length_pos
    rw [Text.Hex.length_encode, word.length_eq]
    decide
  rw [bytes32OfHex, FixedBytes.hex, Text.Hex.utf8_text, Text.Hex.stripMark_encode]
  split
  · next hnil => exact absurd hnil hne
  · rw [Text.Hex.decode_encode]
    simp only [FixedBytes.ofBytes?_bytes]

end RollupWallet
