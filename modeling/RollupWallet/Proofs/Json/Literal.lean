import Mathlib
import RollupWallet.Json.Literal
import RollupWallet.Proofs.Text.Utf8

/-!
# Strings in JSON read back what they write

A byte is written in one of three ways: in a short escape, in four digits, or as it stands
(`escape_cases`).  Reading one such piece gives the byte and goes on behind it, for the reader that
undoes the escapes (`decode?_escape`) and for the one that looks for the end of the string
(`split?_escape`).  By induction the whole string is read back, up to its closing mark
(`decode?_encode`, `split?_encode`).

Text that needs no escape at all is written as it stands (`encode_of_plain`).  The raw form of a
string is again UTF-8 text (`isUtf8_encode`): escapes replace ASCII bytes by ASCII bytes, and the
bytes of all other characters stay together.
-/

namespace RollupWallet.Json.Literal

/-! ### One byte -/

/-- The three ways in which a byte is written. -/
theorem escape_cases (byte : UInt8) :
    (∃ letter, letter ≠ 117 ∧ ofShortEscape? letter = some byte ∧ escape byte = [92, letter]) ∨
      (byte.toNat < 32 ∧ escape byte = [92, 117, 48, 48, Text.Hex.digit (byte.toNat / 16),
        Text.Hex.digit (byte.toNat % 16)]) ∨
      (¬ byte < 32 ∧ byte ≠ 34 ∧ byte ≠ 92 ∧ escape byte = [byte]) := by
  unfold escape
  split
  · next letter hletter =>
    refine Or.inl ⟨letter, ?_⟩
    unfold shortEscape? at hletter
    split_ifs at hletter
    all_goals
      cases hletter
      subst_vars
      decide
  · next hnone =>
    have hplain : byte ≠ 34 ∧ byte ≠ 92 := by
      constructor <;> rintro rfl <;> cases hnone
    split
    · next hlt => exact Or.inr (Or.inl ⟨UInt8.lt_iff_toNat_lt.mp hlt, rfl⟩)
    · next hge => exact Or.inr (Or.inr ⟨hge, hplain.1, hplain.2, rfl⟩)

/-- The character of a code below 128 is one byte. -/
theorem codeBytes_ascii {code : ℕ} (h : code < 128) : codeBytes code = [UInt8.ofNat code] := by
  have hvalid : code.isValidChar := Or.inl (by omega)
  have hcode : (Char.ofNat code).toNat = code := by
    rw [Char.ofNat, dif_pos hvalid]
    exact Char.toNat_ofNatAux hvalid
  have hsingle : String.singleton (Char.ofNat code) = String.ofList [Char.ofNat code] := rfl
  rw [codeBytes, hsingle, Text.utf8_ofList_ascii, List.map_singleton, hcode]
  intro c hc
  rw [List.mem_singleton.mp hc, hcode]
  exact h

/-- The four digits of a control character. -/
theorem unit?_control {n : ℕ} (h : n < 32) :
    unit? 48 48 (Text.Hex.digit (n / 16)) (Text.Hex.digit (n % 16)) = some n := by
  have hhigh := Text.Hex.value?_digit (n / 16) (by omega)
  have hlow := Text.Hex.value?_digit (n % 16) (by omega)
  have hzero : Text.Hex.value? 48 = some 0 := rfl
  rw [unit?, hhigh, hlow, hzero]
  show some (((0 * 16 + 0) * 16 + n / 16) * 16 + n % 16) = some n
  congr 1
  omega

/-- The reader that undoes the escapes takes one written byte for that byte. -/
theorem decode?_escape (byte : UInt8) (rest : Bytes) :
    decode? (escape byte ++ rest) = (byte :: ·) <$> decode? rest := by
  rcases escape_cases byte with ⟨letter, hletter, hread, heq⟩ | ⟨hlt, heq⟩ | ⟨_, _, hne, heq⟩
  · rw [heq]
    show decode? (92 :: letter :: rest) = _
    rw [decode?, hread]
    intro a b c d rest h
    exact absurd h hletter
  · have hhigh : isHigh byte.toNat = false := by
      have hge : ¬ 0xD800 ≤ byte.toNat := by omega
      rw [isHigh, decide_eq_false hge]
      rfl
    have hlow : isLow byte.toNat = false := by
      have hge : ¬ 0xDC00 ≤ byte.toNat := by omega
      rw [isLow, decide_eq_false hge]
      rfl
    have hcode : codeBytes byte.toNat = [byte] := by
      rw [codeBytes_ascii (by omega), UInt8.ofNat_toNat]
    rw [heq]
    show decode? (92 :: 117 :: 48 :: 48 :: Text.Hex.digit (byte.toNat / 16) ::
      Text.Hex.digit (byte.toNat % 16) :: rest) = _
    rw [decode?, unit?_control hlt]
    simp only [hhigh, hlow, Bool.false_eq_true, if_false, hcode, List.singleton_append]
  · rw [heq]
    show decode? (byte :: rest) = _
    rw [decode?]
    all_goals
      intros
      contradiction

/-- The reader that looks for the end of a string passes over one written byte. -/
theorem split?_escape (byte : UInt8) (rest : Bytes) :
    split? (escape byte ++ rest) =
      (split? rest).map fun found => (escape byte ++ found.1, found.2) := by
  rcases escape_cases byte with ⟨letter, hletter, hread, heq⟩ | ⟨hlt, heq⟩ | ⟨hge, hquote, hne, heq⟩
  · rw [heq]
    show split? (92 :: letter :: rest) = _
    rw [split?, hread]
    · rfl
    · intro a b c d rest h
      exact absurd h hletter
  · rw [heq]
    show split? (92 :: 117 :: 48 :: 48 :: Text.Hex.digit (byte.toNat / 16) ::
      Text.Hex.digit (byte.toNat % 16) :: rest) = _
    rw [split?, unit?_control hlt]
    rfl
  · rw [heq]
    show split? (byte :: rest) = _
    rw [split?, if_neg (not_or.mpr ⟨hge, hne⟩)]
    · rfl
    all_goals
      intros
      contradiction

/-! ### Whole strings -/

/-- **The escapes of a string are undone.** -/
@[simp] theorem decode?_encode (bytes : Bytes) : decode? (encode bytes) = some bytes := by
  induction bytes with
  | nil => rfl
  | cons byte bytes ih =>
      rw [encode, List.flatMap_cons, decode?_escape, ← encode, ih]
      rfl

@[simp] theorem string?_encode_utf8 (s : String) : string? (encode (Text.utf8 s)) = some s := by
  rw [string?, decode?_encode]
  exact Text.ofUtf8?_utf8 s

/-- **The end of a written string is found.** -/
@[simp] theorem split?_encode (bytes rest : Bytes) :
    split? (encode bytes ++ 34 :: rest) = some (encode bytes, rest) := by
  induction bytes with
  | nil => rfl
  | cons byte bytes ih =>
      rw [encode, List.flatMap_cons, List.append_assoc, split?_escape, ← encode, ih]
      rfl

/-! ### Raw forms as text -/

theorem ofShortEscape?_ascii {letter byte : UInt8} (h : ofShortEscape? letter = some byte) :
    letter < 128 ∧ byte < 128 := by
  unfold ofShortEscape? at h
  split_ifs at h
  all_goals
    cases h
    subst_vars
    decide

/-- No short escape has the letter of the long ones. -/
theorem ne_of_ofShortEscape? {letter byte : UInt8} (h : ofShortEscape? letter = some byte) :
    letter ≠ 117 := by
  have hnone : ofShortEscape? 117 = none := by decide
  rintro rfl
  rw [hnone] at h
  cases h

/-- What is written for an ASCII byte is ASCII text. -/
theorem escape_ascii {byte : UInt8} (h : byte < 128) : ∀ b ∈ escape byte, b < 128 := by
  have hdigit : ∀ n < 16, Text.Hex.digit n < 128 := by decide
  intro b hb
  rcases escape_cases byte with ⟨letter, _, hletter, heq⟩ | ⟨hlt, heq⟩ | ⟨_, _, _, heq⟩
  · rw [heq, List.mem_cons, List.mem_singleton] at hb
    rcases hb with rfl | rfl
    · decide
    · exact (ofShortEscape?_ascii hletter).1
  · rw [heq] at hb
    simp only [List.mem_cons, List.not_mem_nil, or_false] at hb
    rcases hb with rfl | rfl | rfl | rfl | rfl | rfl
    · decide
    · decide
    · decide
    · decide
    · exact hdigit _ (by omega)
    · exact hdigit _ (by omega)
  · rw [heq, List.mem_singleton] at hb
    exact hb ▸ h

/-- Bytes beyond ASCII are written as they stand. -/
theorem encode_of_not_ascii {bytes : Bytes} (h : ∀ byte ∈ bytes, 128 ≤ byte) :
    encode bytes = bytes := by
  induction bytes with
  | nil => rfl
  | cons byte bytes ih =>
      have hbyte : 128 ≤ byte := h byte List.mem_cons_self
      have hescape : escape byte = [byte] := by
        rcases escape_cases byte with ⟨letter, _, hletter, _⟩ | ⟨hlt, _⟩ | ⟨_, _, _, heq⟩
        · exact absurd hbyte (UInt8.not_le.mpr (ofShortEscape?_ascii hletter).2)
        · have hge : 128 ≤ byte.toNat := UInt8.le_iff_toNat_le.mp hbyte
          omega
        · exact heq
      rw [encode, List.flatMap_cons, ← encode, ih fun b hb => h b (List.mem_cons_of_mem _ hb),
        hescape]
      rfl

/-- **The raw form of a string is UTF-8 text.** -/
theorem isUtf8_encode (s : String) : Text.IsUtf8 (encode (Text.utf8 s)) := by
  rw [← String.ofList_toList (s := s), Text.utf8_ofList, encode, List.flatMap_assoc]
  refine Text.IsUtf8.flatMap fun c _ => ?_
  by_cases hc : c.toNat < 128
  · rw [Text.utf8EncodeChar_ascii hc, List.flatMap_cons, List.flatMap_nil, List.append_nil]
    refine Text.IsUtf8.of_ascii (escape_ascii ?_)
    exact (UInt8.ofNat_lt_iff_lt (Nat.lt_trans hc (by decide)) (by decide)).mpr hc
  · have hbytes : encode (String.utf8EncodeChar c) = String.utf8EncodeChar c :=
      encode_of_not_ascii fun byte hbyte => Text.le_of_mem_utf8EncodeChar (not_lt.mp hc) hbyte
    rw [encode] at hbytes
    rw [hbytes]
    exact Text.IsUtf8.utf8EncodeChar c

/-! ### Plain text -/

/-- A byte that stands for itself inside a string and in the text of it. -/
def IsPlain (byte : UInt8) : Prop := 32 ≤ byte ∧ byte ≠ 34 ∧ byte ≠ 92 ∧ byte < 128

instance : DecidablePred IsPlain := fun _ => inferInstanceAs (Decidable (_ ∧ _))

theorem escape_of_plain {byte : UInt8} (h : IsPlain byte) : escape byte = [byte] := by
  obtain ⟨hge, hquote, hback, _⟩ := h
  have hnone : shortEscape? byte = none := by
    unfold shortEscape?
    rw [if_neg hquote, if_neg hback]
    -- the other short escapes are those of control characters
    have hne : ∀ control : UInt8, control < 32 → byte ≠ control := by
      rintro control hlt rfl
      exact absurd hlt (UInt8.not_lt.mpr hge)
    rw [if_neg (hne 8 (by decide)), if_neg (hne 9 (by decide)), if_neg (hne 10 (by decide)),
      if_neg (hne 12 (by decide)), if_neg (hne 13 (by decide))]
  rw [escape, hnone]
  exact if_neg (UInt8.not_lt.mpr hge)

/-- Plain text is written as it stands. -/
theorem encode_of_plain {bytes : Bytes} (h : ∀ byte ∈ bytes, IsPlain byte) :
    encode bytes = bytes := by
  induction bytes with
  | nil => rfl
  | cons byte bytes ih =>
      have htail : encode bytes = bytes := ih fun b hb => h b (List.mem_cons_of_mem _ hb)
      rw [encode, List.flatMap_cons, ← encode, htail, escape_of_plain (h byte List.mem_cons_self)]
      rfl

/-- Plain text is read as the string of its characters. -/
theorem string?_of_plain {bytes : Bytes} (h : ∀ byte ∈ bytes, IsPlain byte) :
    string? bytes = some (Text.ofAscii bytes) := by
  have hascii : ∀ byte ∈ bytes, byte < 128 := fun byte hbyte => (h byte hbyte).2.2.2
  have hread := string?_encode_utf8 (Text.ofAscii bytes)
  rw [Text.utf8_ofAscii hascii, encode_of_plain h] at hread
  exact hread

/-- A character of names: a letter, a digit or the underscore. -/
def isNameChar (c : Char) : Bool := c.isAlphanum || c == '_'

/-- The characters of names are plain. -/
theorem plain_of_isNameChar {c : Char} (h : isNameChar c = true) :
    c.toNat < 128 ∧ IsPlain (UInt8.ofNat c.toNat) := by
  have hplain : ∀ n < 128, 48 ≤ n → n ≠ 92 → IsPlain (UInt8.ofNat n) := by decide
  have hrange : 48 ≤ c.toNat ∧ c.toNat < 128 ∧ c.toNat ≠ 92 := by
    simp only [isNameChar, Char.isAlphanum, Char.isAlpha, Char.isUpper, Char.isLower, Char.isDigit,
      Bool.or_eq_true, Bool.and_eq_true, decide_eq_true_eq, ge_iff_le, UInt32.le_iff_toNat_le,
      beq_iff_eq] at h
    show 48 ≤ c.val.toNat ∧ c.val.toNat < 128 ∧ c.val.toNat ≠ 92
    rcases h with ((⟨hlow, hhigh⟩ | ⟨hlow, hhigh⟩) | ⟨hlow, hhigh⟩) | rfl
    · change 65 ≤ c.val.toNat at hlow
      change c.val.toNat ≤ 90 at hhigh
      omega
    · change 97 ≤ c.val.toNat at hlow
      change c.val.toNat ≤ 122 at hhigh
      omega
    · change 48 ≤ c.val.toNat at hlow
      change c.val.toNat ≤ 57 at hhigh
      omega
    · decide
  exact ⟨hrange.2.1, hplain _ hrange.2.1 hrange.1 hrange.2.2⟩

/-- A name is written as it stands. -/
theorem encode_of_isName {s : String} (h : s.toList.all isNameChar = true) :
    encode (Text.utf8 s) = Text.utf8 s := by
  rw [List.all_eq_true] at h
  have hbytes := Text.utf8_ofList_ascii fun c hc => (plain_of_isNameChar (h c hc)).1
  rw [String.ofList_toList] at hbytes
  refine encode_of_plain fun byte hbyte => ?_
  rw [hbytes] at hbyte
  obtain ⟨c, hc, rfl⟩ := List.mem_map.mp hbyte
  exact (plain_of_isNameChar (h c hc)).2

end RollupWallet.Json.Literal
