import Mathlib
import RollupWallet.Proofs.Text.Ascii

/-!
# The bytes of a string have no flaw

The search for flaws passes over the bytes of one character and goes on behind them
(`utf8Fault?_char`), by cases on how many bytes the character takes: the sizes of the first byte and
of those that continue it are read off the code of the character, and the codes that the second byte
must not lead to are exactly those that no character has.  So the bytes of a string have no flaw
(`utf8Fault?_utf8`), and repairing them leaves the string what it is (`ofUtf8Lossy_utf8`).

Bytes are the text of a string (`IsUtf8`) piece by piece, and ASCII bytes always are.
-/

namespace RollupWallet.Text

/-! ### One step of the search -/

section Step

variable {index : ℕ} {a b c d : UInt8} {rest : Bytes}

theorem utf8Fault?_one (ha : a < 0x80) :
    utf8Fault? index (a :: rest) = utf8Fault? (index + 1) rest := by
  rw [utf8Fault?.eq_def]
  simp only [ha, if_true]

theorem utf8Fault?_two (hlow : 0xC2 ≤ a) (hhigh : a ≤ 0xDF) (hb : isContinuation b = true) :
    utf8Fault? index (a :: b :: rest) = utf8Fault? (index + 2) rest := by
  have hone : ¬ a < 0x80 := UInt8.not_lt.mpr (UInt8.le_trans (by decide) hlow)
  rw [utf8Fault?.eq_def]
  simp [hone, hlow, hhigh, hb]

theorem utf8Fault?_three (hlow : 0xE0 ≤ a) (hhigh : a ≤ 0xEF) (hb : follows3 a b = true)
    (hc : isContinuation c = true) :
    utf8Fault? index (a :: b :: c :: rest) = utf8Fault? (index + 3) rest := by
  have hone : ¬ a < 0x80 := UInt8.not_lt.mpr (UInt8.le_trans (by decide) hlow)
  have htwo : ¬ a ≤ 0xDF := UInt8.not_le.mpr (UInt8.lt_of_lt_of_le (by decide) hlow)
  rw [utf8Fault?.eq_def]
  simp [hone, htwo, hlow, hhigh, hb, hc]

theorem utf8Fault?_four (hlow : 0xF0 ≤ a) (hhigh : a ≤ 0xF4) (hb : follows4 a b = true)
    (hc : isContinuation c = true) (hd : isContinuation d = true) :
    utf8Fault? index (a :: b :: c :: d :: rest) = utf8Fault? (index + 4) rest := by
  have hone : ¬ a < 0x80 := UInt8.not_lt.mpr (UInt8.le_trans (by decide) hlow)
  have htwo : ¬ a ≤ 0xDF := UInt8.not_le.mpr (UInt8.lt_of_lt_of_le (by decide) hlow)
  have hthree : ¬ a ≤ 0xEF := UInt8.not_le.mpr (UInt8.lt_of_lt_of_le (by decide) hlow)
  rw [utf8Fault?.eq_def]
  simp [hone, htwo, hthree, hlow, hhigh, hb, hc, hd]

end Step

/-! ### The bytes of one character -/

theorem ofNat_mem_range (low high : ℕ) {n : ℕ} (hlow : low ≤ n) (hhigh : n ≤ high)
    (hsize : high < 256) : UInt8.ofNat low ≤ UInt8.ofNat n ∧ UInt8.ofNat n ≤ UInt8.ofNat high := by
  have hn : n < 256 := Nat.lt_of_le_of_lt hhigh hsize
  have hlowsize : low < 256 := Nat.lt_of_le_of_lt hlow hn
  exact ⟨(UInt8.ofNat_le_iff_le hlowsize hn).mpr hlow, (UInt8.ofNat_le_iff_le hn hsize).mpr hhigh⟩

/-- The form in which the search asks whether a byte is in a range. -/
theorem range_ofNat (low high : ℕ) {n : ℕ} (hlow : low ≤ n) (hhigh : n ≤ high)
    (hsize : high < 256) :
    (decide (UInt8.ofNat low ≤ UInt8.ofNat n) && decide (UInt8.ofNat n ≤ UInt8.ofNat high)) =
      true := by
  have hrange := ofNat_mem_range low high hlow hhigh hsize
  rw [decide_eq_true hrange.1, decide_eq_true hrange.2]
  rfl

theorem isContinuation_ofNat (n : ℕ) : isContinuation (UInt8.ofNat (n % 64 + 128)) = true :=
  range_ofNat 0x80 0xBF (by omega) (by omega) (by decide)

theorem eq_of_ofNat_beq {m n : ℕ} (hm : m < 256) (hn : n < 256)
    (h : (UInt8.ofNat m == UInt8.ofNat n) = true) : m = n := by
  have heq := congrArg UInt8.toNat (eq_of_beq h)
  rw [UInt8.toNat_ofNat', UInt8.toNat_ofNat'] at heq
  omega

/-- The second of three bytes follows the first, unless the character would fit into two bytes or
its code were that of half a pair. -/
theorem follows3_ofNat {n : ℕ} (hlow : 0x800 ≤ n) (hhigh : n < 0x10000)
    (hpair : n < 0xD800 ∨ 0xDFFF < n) :
    follows3 (UInt8.ofNat (n / 4096 % 16 + 224)) (UInt8.ofNat (n / 64 % 64 + 128)) = true := by
  unfold follows3
  split
  · next hfirst =>
    have hlead : n / 4096 % 16 + 224 = 0xE0 := eq_of_ofNat_beq (by omega) (by decide) hfirst
    exact range_ofNat 0xA0 0xBF (by omega) (by omega) (by decide)
  · split
    · next hfirst =>
      have hlead : n / 4096 % 16 + 224 = 0xED := eq_of_ofNat_beq (by omega) (by decide) hfirst
      exact range_ofNat 0x80 0x9F (by omega) (by omega) (by decide)
    · exact isContinuation_ofNat (n / 64)

/-- The second of four bytes follows the first, unless the character would fit into three bytes or
its code lay beyond the last plane. -/
theorem follows4_ofNat {n : ℕ} (hlow : 0x10000 ≤ n) (hhigh : n < 0x110000) :
    follows4 (UInt8.ofNat (n / 262144 % 8 + 240)) (UInt8.ofNat (n / 4096 % 64 + 128)) = true := by
  unfold follows4
  split
  · next hfirst =>
    have hlead : n / 262144 % 8 + 240 = 0xF0 := eq_of_ofNat_beq (by omega) (by decide) hfirst
    exact range_ofNat 0x90 0xBF (by omega) (by omega) (by decide)
  · split
    · next hfirst =>
      have hlead : n / 262144 % 8 + 240 = 0xF4 := eq_of_ofNat_beq (by omega) (by decide) hfirst
      exact range_ofNat 0x80 0x8F (by omega) (by omega) (by decide)
    · exact isContinuation_ofNat (n / 4096)

/-- **The search passes over the bytes of a character.** -/
theorem utf8Fault?_char (c : Char) (rest : Bytes) (index : ℕ) :
    ∃ next, utf8Fault? index (String.utf8EncodeChar c ++ rest) = utf8Fault? next rest := by
  have hvalid : c.val.toNat < 0xD800 ∨ (0xDFFF < c.val.toNat ∧ c.val.toNat < 0x110000) := c.valid
  unfold String.utf8EncodeChar
  generalize c.val.toNat = n at hvalid
  simp only
  split_ifs with hone htwo hthree
  · have hlt : UInt8.ofNat n < UInt8.ofNat 0x80 := by
      have hsize : n < 256 := Nat.lt_of_le_of_lt hone (by decide)
      exact (UInt8.ofNat_lt_iff_lt hsize (by decide)).mpr (Nat.lt_succ_of_le hone)
    exact ⟨index + 1, utf8Fault?_one hlt⟩
  · have hfirst := ofNat_mem_range 0xC2 0xDF (n := n / 64 % 32 + 192) (by omega) (by omega)
      (by decide)
    exact ⟨index + 2, utf8Fault?_two hfirst.1 hfirst.2 (isContinuation_ofNat n)⟩
  · have hfirst := ofNat_mem_range 0xE0 0xEF (n := n / 4096 % 16 + 224) (by omega) (by omega)
      (by decide)
    have hsecond := follows3_ofNat (n := n) (by omega) (by omega) (by omega)
    exact ⟨index + 3, utf8Fault?_three hfirst.1 hfirst.2 hsecond (isContinuation_ofNat n)⟩
  · have hfirst := ofNat_mem_range 0xF0 0xF4 (n := n / 262144 % 8 + 240) (by omega) (by omega)
      (by decide)
    have hsecond := follows4_ofNat (n := n) (by omega) (by omega)
    exact ⟨index + 4, utf8Fault?_four hfirst.1 hfirst.2 hsecond (isContinuation_ofNat (n / 64))
      (isContinuation_ofNat n)⟩

/-! ### The bytes of a string -/

/-- **The bytes of a string have no flaw.** -/
theorem utf8Fault?_utf8 (s : String) (index : ℕ) : utf8Fault? index (utf8 s) = none := by
  rw [← String.ofList_toList (s := s), utf8_ofList]
  induction s.toList generalizing index with
  | nil => rfl
  | cons c chars ih =>
      obtain ⟨next, hnext⟩ := utf8Fault?_char c (chars.flatMap String.utf8EncodeChar) index
      rw [List.flatMap_cons, hnext]
      exact ih next

/-- Bytes without a flaw are not repaired. -/
theorem ofUtf8Lossy_utf8 (s : String) : ofUtf8Lossy (utf8 s) = s := by
  have hrepair : ∀ fuel, repair fuel (utf8 s) = utf8 s := by
    intro fuel
    cases fuel with
    | zero => rfl
    | succ fuel => rw [repair, utf8Fault?_utf8]
  rw [ofUtf8Lossy, hrepair, ofUtf8?_utf8]
  rfl

/-- Bytes that are those of a string. -/
def IsUtf8 (bytes : Bytes) : Prop := ∃ s, utf8 s = bytes

namespace IsUtf8

variable {a b : Bytes}

theorem append (ha : IsUtf8 a) (hb : IsUtf8 b) : IsUtf8 (a ++ b) := by
  obtain ⟨s, rfl⟩ := ha
  obtain ⟨t, rfl⟩ := hb
  exact ⟨s ++ t, utf8_append s t⟩

theorem of_ascii (h : ∀ byte ∈ a, byte < 128) : IsUtf8 a := ⟨ofAscii a, utf8_ofAscii h⟩

theorem of_all (h : a.all (· < 128) = true) : IsUtf8 a :=
  of_ascii fun byte hbyte => of_decide_eq_true (List.all_eq_true.mp h byte hbyte)

theorem flatMap {α : Type} {f : α → Bytes} {items : List α} (h : ∀ item ∈ items, IsUtf8 (f item)) :
    IsUtf8 (items.flatMap f) := by
  induction items with
  | nil => exact of_ascii nofun
  | cons item items ih =>
      rw [List.flatMap_cons]
      exact (h item List.mem_cons_self).append (ih fun i hi => h i (List.mem_cons_of_mem _ hi))

theorem utf8EncodeChar (c : Char) : IsUtf8 (String.utf8EncodeChar c) := by
  refine ⟨String.ofList [c], ?_⟩
  rw [utf8_ofList, List.flatMap_cons, List.flatMap_nil, List.append_nil]

end IsUtf8

/-- The bytes of a character beyond ASCII lie beyond ASCII. -/
theorem le_of_mem_utf8EncodeChar {c : Char} (hc : 128 ≤ c.toNat) {byte : UInt8}
    (hbyte : byte ∈ String.utf8EncodeChar c) : 128 ≤ byte := by
  have hlead : ∀ n, 128 ≤ n → n < 256 → (128 : UInt8) ≤ UInt8.ofNat n :=
    fun n hlow hhigh => (ofNat_mem_range 128 n hlow (Nat.le_refl n) hhigh).1
  change 128 ≤ c.val.toNat at hc
  unfold String.utf8EncodeChar at hbyte
  generalize c.val.toNat = n at hc hbyte
  simp only at hbyte
  split_ifs at hbyte with hone htwo hthree
  · omega
  all_goals
    simp only [List.mem_cons, List.not_mem_nil, or_false] at hbyte
    rcases hbyte with rfl | hbyte
    · exact hlead _ (by omega) (by omega)
  · subst hbyte
    exact hlead _ (by omega) (by omega)
  · rcases hbyte with rfl | rfl
    · exact hlead _ (by omega) (by omega)
    · exact hlead _ (by omega) (by omega)
  · rcases hbyte with rfl | rfl | rfl
    · exact hlead _ (by omega) (by omega)
    · exact hlead _ (by omega) (by omega)
    · exact hlead _ (by omega) (by omega)

end RollupWallet.Text
