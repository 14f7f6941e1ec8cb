import Mathlib
import RollupWallet.Json.Codec
import RollupWallet.Proofs.Error
import RollupWallet.Proofs.Json.Compact
import RollupWallet.Proofs.Text.Hex

/-!
# Codecs read back what they write

A codec keeps a value if it writes a compact tree for it and reads that tree as the value
(`Codec.Keeps`); it is lawful if it keeps every value (`Codec.Lawful`).  A lawful codec reads back
the whole text that it writes (`Codec.ofText_toText`), because the text of a compact tree is
read as that tree.

Lawful codecs are instances, so that a codec put together from lawful ones is lawful by itself.
Where a value and `null` share a tree, as in `Codec.optional`, the codec of the value must not write
`null` (`Codec.NeverNull`).
-/

namespace RollupWallet.Json.Codec

variable {α β : Type}

/-- The codec writes a compact tree for a value and reads the value back from it. -/
structure Keeps (codec : Codec α) (a : α) : Prop where
  compact : Compact (codec.write a)
  read_write : codec.read (codec.write a) = .ok a

/-- The codec keeps every value. -/
class Lawful (codec : Codec α) : Prop where
  keeps : ∀ a, codec.Keeps a

/-- The codec writes no value as `null`. -/
class NeverNull (codec : Codec α) : Prop where
  write_ne_null : ∀ a, codec.write a ≠ .null

/-- The text of a compact tree is read as that tree, with nothing left over. -/
theorem ofText_of_compact (codec : Codec α) {tree : Json} (h : Compact tree) :
    codec.ofText tree.text = codec.read tree := by
  unfold ofText
  rw [h.parse_text]
  cases hread : codec.read tree with
  | error fault => simp only [hread]; rfl
  | ok a => simp only [hread]; rfl

/-- **A lawful codec reads back every text that it writes.** -/
theorem ofText_text (codec : Codec α) [codec.Lawful] (a : α) :
    codec.ofText (codec.write a).text = .ok a := by
  have hkeeps : codec.Keeps a := Lawful.keeps a
  rw [ofText_of_compact codec hkeeps.compact, hkeeps.read_write]

theorem ofText_toText (codec : Codec α) [codec.Lawful] (a : α) :
    codec.ofText (codec.toText a) = .ok a :=
  ofText_text codec a

/-- A value is read from a whole text if it is read from its tree and only blanks follow. -/
theorem ofText_eq_ok_iff (codec : Codec α) {text : Bytes} {a : α} :
    codec.ofText text = .ok a ↔ ∃ tree rest, parse codec.shape text = (tree, some rest) ∧
      rest.all isBlank = true ∧ codec.read tree = .ok a := by
  unfold ofText
  obtain ⟨tree, after⟩ := parse codec.shape text
  constructor
  · intro h
    obtain ⟨a', hread, hrest⟩ := bind_eq_ok.mp h
    cases after with
    | none => cases hrest
    | some rest =>
        by_cases hblank : rest.all isBlank = true
        · simp only [if_pos hblank] at hrest
          exact ⟨tree, rest, rfl, hblank, hread.trans hrest⟩
        · simp only [if_neg hblank] at hrest
          cases hrest
  · rintro ⟨_, rest, hparse, hblank, hread⟩
    obtain ⟨rfl, rfl⟩ := Prod.mk.inj hparse
    simp only [hread, ok_bind, if_pos hblank]
    rfl

/-- What is wrong with the tree of a text is wrong with the text, whatever follows it. -/
theorem ofText_eq_error (codec : Codec α) {text : Bytes} {fault : Fault}
    (h : codec.read (parse codec.shape text).1 = .error fault) :
    codec.ofText text = .error fault := by
  unfold ofText
  simp only [h, error_bind]

/-- What a lawful codec writes is UTF-8 text. -/
theorem isUtf8_text (codec : Codec α) [codec.Lawful] (a : α) :
    Text.IsUtf8 (codec.write a).text := by
  have hkeeps : codec.Keeps a := Lawful.keeps a
  exact hkeeps.compact.isUtf8_text

/-! ### Codecs from codecs -/

/-- A refined codec keeps a value if the codec below keeps its form, and its form is accepted. -/
theorem Keeps.refine {codec : Codec α} {decode : α → Except Fault β} {encode : β → α} {b : β}
    (h : codec.Keeps (encode b)) (hdecode : decode (encode b) = .ok b) :
    (codec.refine decode encode).Keeps b where
  compact := h.compact
  read_write := by
    show codec.read (codec.write (encode b)) >>= decode = _
    rw [h.read_write]
    exact hdecode

theorem Keeps.checked {codec : Codec α} {decode : α → Except InvalidInput β} {encode : β → α}
    {b : β} (h : codec.Keeps (encode b)) (hdecode : decode (encode b) = .ok b) :
    (codec.checked decode encode).Keeps b :=
  h.refine (by rw [hdecode]; rfl)

/-- A codec of a type in another form keeps a value if its form is kept and determines it. -/
theorem Keeps.imap {codec : Codec α} {decode : α → β} {encode : β → α} {b : β}
    (h : codec.Keeps (encode b)) (hdecode : decode (encode b) = b) :
    (codec.imap decode encode).Keeps b where
  compact := h.compact
  read_write := by
    show decode <$> codec.read (codec.write (encode b)) = _
    rw [h.read_write]
    exact congrArg Except.ok hdecode

/-- A codec of a type in another form is lawful if the form determines the value. -/
theorem Lawful.imap {codec : Codec α} (h : codec.Lawful) {decode : α → β} {encode : β → α}
    (hdecode : ∀ b, decode (encode b) = b) : (codec.imap decode encode).Lawful where
  keeps b := (h.keeps (encode b)).imap (hdecode b)

/-- A type in another form is read from the same texts. -/
theorem ofText_imap (codec : Codec α) (decode : α → β) (encode : β → α)
    (text : Bytes) : (codec.imap decode encode).ofText text = decode <$> codec.ofText text := by
  unfold ofText imap
  cases hread : codec.read (parse codec.shape text).1 with
  | error fault => simp only [hread]; rfl
  | ok value =>
      simp only [hread]
      -- what follows the value is looked at in the same way on both sides
      cases (parse codec.shape text).2 with
      | none => rfl
      | some rest =>
          show (if _ then _ else _) = decode <$> (if _ then _ else _)
          split <;> rfl

theorem exists_ofText_of_imap {codec : Codec α} {decode : α → β} {encode : β → α} {text : Bytes}
    {b : β} (h : (codec.imap decode encode).ofText text = .ok b) :
    ∃ a, codec.ofText text = .ok a := by
  rw [ofText_imap] at h
  obtain ⟨a, hread, -⟩ := map_eq_ok.mp h
  exact ⟨a, hread⟩

theorem read_optional (codec : Codec α) {tree : Json} (h : tree ≠ .null) :
    codec.optional.read tree = some <$> codec.read tree := by
  cases tree with
  | null => exact absurd rfl h
  | _ => rfl

instance (codec : Codec α) [codec.Lawful] [codec.NeverNull] : codec.optional.Lawful where
  keeps a := by
    cases a with
    | none => exact ⟨.null, rfl⟩
    | some a =>
        have hkeeps : codec.Keeps a := Lawful.keeps a
        refine ⟨hkeeps.compact, ?_⟩
        show codec.optional.read (codec.write a) = _
        rw [read_optional codec (NeverNull.write_ne_null a), hkeeps.read_write]
        rfl

/-! ### Strings and numbers -/

theorem read_string {raw : Bytes} {s : String} (h : Literal.string? raw = some s) :
    string.read (.string raw) = .ok s := by
  simp only [string, h]

theorem string?_of_read {tree : Json} {s : String} (h : string.read tree = .ok s) :
    ∃ raw, tree = .string raw ∧ Literal.string? raw = some s := by
  cases tree with
  | string raw =>
      refine ⟨raw, rfl, ?_⟩
      simp only [string] at h
      split at h
      · next heq => rw [heq, Except.ok.inj h]
      · cases h
  | _ => cases h

theorem failsWith_read_string (tree : Json) :
    FailsWith (· = .malformed) (string.read tree) := by
  unfold string
  cases tree with
  | string raw =>
      simp only
      split
      · exact FailsWith.of_ok _
      · exact FailsWith.error_iff.mpr rfl
  | _ => exact FailsWith.error_iff.mpr rfl

instance : string.Lawful where
  keeps s := ⟨.string _, read_string (Literal.string?_encode_utf8 s)⟩

/-- No integer is written as a zero with a sign. -/
theorem integer_ne_negative_zero (n : ℤ) : Text.Decimal.integer n ≠ [45, 48] := by
  intro h
  cases n with
  | ofNat n =>
      rw [Text.Decimal.integer_ofNat] at h
      have hminus : (45 : UInt8) ∈ Text.Decimal.natural n := h ▸ List.mem_cons_self
      exact absurd (Text.Decimal.isDigit_of_mem_natural hminus) (by decide)
  | negSucc n =>
      rw [Text.Decimal.integer_negSucc] at h
      -- behind the minus sign stands the successor, which is not zero
      have hvalue := congrArg Text.Decimal.value (List.cons.inj h).2
      rw [Text.Decimal.value_natural] at hvalue
      exact absurd hvalue (Nat.succ_ne_zero n)

instance : integer.Lawful where
  keeps n := by
    refine ⟨.number n, ?_⟩
    show integer.read (.number (Text.Decimal.integer n)) = _
    simp only [integer, if_neg (integer_ne_negative_zero n), Text.Decimal.integer?_integer]

instance : int64.Lawful where
  keeps n := by
    refine (Lawful.keeps n.toInt).refine ?_
    have hrange : Int64.minValue.toInt ≤ n.toInt ∧ n.toInt ≤ Int64.maxValue.toInt :=
      ⟨n.minValue_le_toInt, n.toInt_le⟩
    rw [if_pos hrange, Int64.ofInt_toInt]

/-- A natural number below the bound is kept. -/
theorem keeps_below {bound n : ℕ} (h : n < bound) : (below bound).Keeps n := by
  refine (Lawful.keeps (Int.ofNat n)).refine ?_
  have hrange : 0 ≤ Int.ofNat n ∧ Int.ofNat n < (bound : ℤ) :=
    ⟨Int.natCast_nonneg n, Int.ofNat_lt.mpr h⟩
  rw [if_pos hrange]
  rfl

instance : byte.Lawful where
  keeps b := (keeps_below b.toNat_lt).imap b.ofNat_toNat

theorem digits_ascii (n : ℕ) : ∀ byte ∈ Text.Decimal.natural n, byte < 128 := by
  intro byte hbyte
  have hdigit := Text.Decimal.isDigit_of_mem_natural hbyte
  rw [Text.Decimal.isDigit, Bool.and_eq_true, decide_eq_true_eq, decide_eq_true_eq] at hdigit
  exact UInt8.lt_of_le_of_lt hdigit.2 (by decide)

instance : amount.Lawful where
  keeps n := by
    refine ⟨.number (Int.ofNat n), ?_⟩
    have hsound : (Json.number (Text.Decimal.natural n)).isSound = true := rfl
    have htext : (Json.number (Text.Decimal.natural n)).text = Text.Decimal.natural n := rfl
    show amount.read (.number (Text.Decimal.natural n)) = _
    simp only [amount, hsound, htext, Text.ofUtf8?_of_ascii (digits_ascii n),
      Text.Decimal.natural?_natural]
    rfl

/-! ### Bytes -/

theorem digit_plain : ∀ n < 16, Literal.IsPlain (Text.Hex.digit n) := by decide

/-- Digits after a mark need no escapes. -/
theorem marked_plain (b : Bytes) :
    ∀ byte ∈ [48, 120] ++ Text.Hex.encode b, Literal.IsPlain byte := by
  intro byte hbyte
  rcases List.mem_append.mp hbyte with hmark | hdigit
  · rw [List.mem_cons, List.mem_singleton] at hmark
    rcases hmark with rfl | rfl
    · decide
    · decide
  · obtain ⟨n, hn, rfl⟩ := Text.Hex.mem_encode hdigit
    exact digit_plain n hn

/-- Plain text in quotation marks is a compact tree. -/
theorem compact_of_plain {raw : Bytes} (h : ∀ byte ∈ raw, Literal.IsPlain byte) :
    Compact (.string raw) := by
  have hascii : ∀ byte ∈ raw, byte < 128 := fun byte hbyte => (h byte hbyte).2.2.2
  have hcompact := Compact.string (Text.ofAscii raw)
  rw [Text.utf8_ofAscii hascii, Literal.encode_of_plain h] at hcompact
  exact hcompact

instance : bytes.Lawful where
  keeps b := by
    have hplain := marked_plain b
    have hascii : ∀ byte ∈ [48, 120] ++ Text.Hex.encode b, byte < 128 :=
      fun byte hbyte => (hplain byte hbyte).2.2.2
    have hstrip : Text.Hex.stripAnyMark ([48, 120] ++ Text.Hex.encode b) = Text.Hex.encode b := rfl
    refine ⟨compact_of_plain hplain, ?_⟩
    show bytes.read (.string ([48, 120] ++ Text.Hex.encode b)) = _
    simp only [bytes, read_string (Literal.string?_of_plain hplain), bind, Except.bind,
      Text.utf8_ofAscii hascii, hstrip, Text.Hex.decode_encode]
    rfl

instance (n : ℕ) : (word n).Lawful where
  keeps w := by
    have hkeeps : bytes.Keeps w.bytes := Lawful.keeps w.bytes
    refine ⟨hkeeps.compact, ?_⟩
    have hread : (word n).read (bytes.write w.bytes) = bytes.read (bytes.write w.bytes) >>= fun b =>
        match FixedBytes.ofBytes? n b with
        | some word => pure word
        | none => throw .malformed := rfl
    show (word n).read (bytes.write w.bytes) = _
    simp only [hread, hkeeps.read_write, bind, Except.bind, FixedBytes.ofBytes?_bytes]
    rfl

/-! ### Codecs that write no null -/

instance : int64.NeverNull := ⟨fun _ => nofun⟩

instance : amount.NeverNull := ⟨fun _ => nofun⟩

instance : bytes.NeverNull := ⟨fun _ => nofun⟩

instance (n : ℕ) : (word n).NeverNull := ⟨fun _ => nofun⟩

end RollupWallet.Json.Codec
