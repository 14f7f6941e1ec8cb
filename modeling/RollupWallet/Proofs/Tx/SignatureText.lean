import Mathlib
import RollupWallet.Proofs.Bytes
import RollupWallet.Proofs.Json.Number
import RollupWallet.Proofs.Tx.Wire

/-!
# The spellings of a signature

A signature is written as a string in Base64, and an array of its bytes is read as well.  There is
no third way (`Codec.read_signature_eq_ok_iff`): Base64 is read from one string only, a byte from one
number only, and a signature has its own bytes only.  A string may be written with escapes; it is
its characters that count.

Whatever comes close is refused, in one of two ways.  Bytes of another number are counted, in either
form.  A tree that spells no bytes at all is malformed: symbols without their padding, stray bits in
front of it, numbers that are no byte.
-/

namespace RollupWallet

/-! ### Bytes and signatures -/

namespace Eddsa.Signature

/-- A signature is read from its own bytes only. -/
theorem ofBytes_eq_ok_iff {bytes : Bytes} {sig : Signature} :
    ofBytes bytes = .ok sig ↔ bytes = sig.toBytes := by
  constructor
  · intro h
    unfold ofBytes at h
    split at h
    · next r s hr hs =>
      rw [← Except.ok.inj h, toBytes, FixedBytes.ofBytes?_eq_some_iff.mp hr,
        FixedBytes.ofBytes?_eq_some_iff.mp hs, List.take_append_drop]
    · cases h
  · rintro rfl
    exact ofBytes_toBytes sig

theorem ofBytes_of_length_ne {bytes : Bytes} (h : bytes.length ≠ 64) :
    ofBytes bytes = .error ⟨"Sig", .wrongLength 64 bytes.length⟩ := by
  cases hread : ofBytes bytes with
  | ok sig =>
      rw [ofBytes_eq_ok_iff.mp hread] at h
      exact absurd sig.length_toBytes h
  | error e =>
      unfold ofBytes at hread
      split at hread
      · cases hread
      · exact hread.symm

end Eddsa.Signature

namespace Json.Codec

open Text (utf8)
open Text.Base64 (encode)

/-! ### Bytes in a tree -/

/-- A tree spells bytes: as a string in Base64, or as an array of numbers. -/
inductive Spells (bytes : Bytes) : Json → Prop
  | string {raw : Bytes} {s : String} (hraw : Literal.string? raw = some s)
      (hs : utf8 s = encode bytes) : Spells bytes (.string raw)
  | array (own : Bytes) : Spells bytes (.array own (bytes.map byte.write))

/-- The numbers among the items of a tree are cut from a text. -/
def HasTokens (tree : Json) : Prop :=
  ∀ own found, tree = .array own found → ∀ token, .number token ∈ found → IsToken token

theorem hasTokens_parse (shape : Shape) (text : Bytes) : HasTokens (parse shape text).1 :=
  fun _ _ h _ hmem => isToken_of_mem_value h hmem

section Tree

variable {tree : Json} {bytes : Bytes}

/-- **The bytes of a signature are read from the trees that spell them.** -/
theorem signatureBytes_eq_ok_iff (htree : HasTokens tree) :
    signatureBytes tree = .ok bytes ↔ Spells bytes tree := by
  constructor
  · intro h
    unfold signatureBytes at h
    split at h
    · next own found =>
      rw [(bytesOfItems_eq_ok_iff (htree own found rfl)).mp h]
      exact .array own
    · obtain ⟨s, hs, hdecode⟩ := bind_eq_ok.mp h
      obtain ⟨raw, rfl, hraw⟩ := string?_of_read hs
      refine .string hraw (Text.Base64.decode?_eq_some_iff.mp ?_)
      split at hdecode
      · next heq => rw [heq, Except.ok.inj hdecode]
      · cases hdecode
  · intro h
    cases h with
    | string hraw hs =>
        simp only [signatureBytes, read_string hraw, ok_bind, hs, Text.Base64.decode?_encode]
        rfl
    | array own => exact (bytesOfItems_eq_ok_iff (htree own _ rfl)).mpr rfl

theorem failsWith_signatureBytes (tree : Json) :
    FailsWith (· = .malformed) (signatureBytes tree) := by
  unfold signatureBytes
  split
  · exact failsWith_bytesOfItems _
  · refine (failsWith_read_string _).bind fun s => ?_
    split
    · exact FailsWith.of_pure _
    · exact FailsWith.throw_iff.mpr rfl

/-- **A signature is read from the trees that spell its bytes.** -/
theorem read_signature_eq_ok_iff (htree : HasTokens tree) {sig : Eddsa.Signature} :
    signature.read tree = .ok sig ↔ Spells sig.toBytes tree := by
  rw [← signatureBytes_eq_ok_iff htree]
  constructor
  · intro h
    obtain ⟨bytes, hbytes, hsig⟩ := bind_eq_ok.mp h
    rw [hbytes, Eddsa.Signature.ofBytes_eq_ok_iff.mp (mapError_eq_ok.mp hsig)]
  · intro h
    refine bind_eq_ok.mpr ⟨sig.toBytes, h, ?_⟩
    rw [Eddsa.Signature.ofBytes_toBytes]
    rfl

/-- Bytes of another number are counted. -/
theorem read_signature_of_length_ne (htree : HasTokens tree) (h : Spells bytes tree)
    (hlength : bytes.length ≠ 64) :
    signature.read tree = .error (.invalidInput ⟨"Sig", .wrongLength 64 bytes.length⟩) := by
  refine bind_eq_error.mpr (Or.inr ⟨bytes, (signatureBytes_eq_ok_iff htree).mpr h, ?_⟩)
  rw [Eddsa.Signature.ofBytes_of_length_ne hlength]
  rfl

/-- A tree that spells no bytes is refused as such. -/
theorem read_signature_of_not_spells (htree : HasTokens tree) (h : ∀ bytes, ¬ Spells bytes tree) :
    signature.read tree = .error .malformed := by
  refine bind_eq_error.mpr (Or.inl ?_)
  cases hread : signatureBytes tree with
  | ok bytes => exact absurd ((signatureBytes_eq_ok_iff htree).mp hread) (h bytes)
  | error fault => rw [failsWith_signatureBytes tree fault hread]

end Tree

/-- Symbols that do not fill their last group spell no bytes, and neither do those with stray bits in
front of the padding. -/
theorem not_spells_string {raw : Bytes} {s : String} (hraw : Literal.string? raw = some s)
    (h : (utf8 s).length % 4 ≠ 0 ∨ Text.Base64.StrayBits (utf8 s)) (bytes : Bytes) :
    ¬ Spells bytes (.string raw) := by
  intro hspells
  cases hspells with
  | string hraw' hs =>
      obtain rfl := Option.some.inj (hraw.symm.trans hraw')
      have hread := Text.Base64.decode?_eq_some_iff.mpr hs
      rcases h with hunpadded | hstray
      · rw [Text.Base64.decode?_of_unpadded hunpadded] at hread
        cases hread
      · rw [Text.Base64.decode?_of_strayBits hstray] at hread
        cases hread

/-- An array with an item that is no number of a byte spells no bytes. -/
theorem not_spells_array {own : Bytes} {found : List Json} {item : Json} (hmem : item ∈ found)
    (hitem : ∀ n ≤ 255, item ≠ .number (Text.Decimal.natural n)) (bytes : Bytes) :
    ¬ Spells bytes (.array own found) := by
  intro hspells
  cases hspells with
  | array =>
      obtain ⟨b, -, heq⟩ := List.mem_map.mp hmem
      exact hitem b.toNat (Nat.le_of_lt_succ b.toNat_lt) heq.symm

/-! ### Whole texts -/

theorem ofText_signature_eq_ok_iff {text : Bytes} {sig : Eddsa.Signature} :
    signature.ofText text = .ok sig ↔ ∃ tree rest, parse .any text = (tree, some rest) ∧
      rest.all isBlank = true ∧ Spells sig.toBytes tree := by
  rw [ofText_eq_ok_iff]
  refine exists_congr fun tree => exists_congr fun rest => and_congr_right fun hparse => ?_
  have htree := hasTokens_parse signature.shape text
  rw [hparse] at htree
  rw [read_signature_eq_ok_iff htree]

/-- The array of the bytes of a signature is read as the signature. -/
theorem ofText_signature_array (sig : Eddsa.Signature) :
    signature.ofText (byte.list.toText sig.toBytes) = .ok sig := by
  have hcompact : ∀ item ∈ sig.toBytes.map byte.write, Compact item := by
    intro item hitem
    obtain ⟨b, -, rfl⟩ := List.mem_map.mp hitem
    exact (Lawful.keeps b).compact
  exact ofText_signature_eq_ok_iff.mpr ⟨_, [], parse_ofItems hcompact, rfl, .array _⟩

/-- **A signature has one spelling in Base64 and one as an array, and a spelling has one
signature.**  Both spellings of every signature are read, nothing else is, and a string that is read
is what is written for the signature, up to escapes.  Other numbers of bytes, symbols without their
padding, stray bits and items that are no bytes are refused. -/
theorem signature_spellings (text : Bytes) :
    (∀ sig, signature.ofText (signature.toText sig) = .ok sig ∧
        signature.ofText (byte.list.toText sig.toBytes) = .ok sig) ∧
      (∀ sig, signature.ofText text = .ok sig ↔ ∃ tree rest, parse .any text = (tree, some rest) ∧
        rest.all isBlank = true ∧ Spells sig.toBytes tree) ∧
      (∀ sig raw s, (parse .any text).1 = .string raw → Literal.string? raw = some s →
        signature.ofText text = .ok sig → signature.toText sig = [34] ++ utf8 s ++ [34]) ∧
      (∀ bytes, Spells bytes (parse .any text).1 → bytes.length ≠ 64 →
        signature.ofText text = .error (.invalidInput ⟨"Sig", .wrongLength 64 bytes.length⟩)) ∧
      (∀ raw s, (parse .any text).1 = .string raw → Literal.string? raw = some s →
        (utf8 s).length % 4 ≠ 0 ∨ Text.Base64.StrayBits (utf8 s) →
          signature.ofText text = .error .malformed) ∧
      ∀ own found, (parse .any text).1 = .array own found →
        (∃ item ∈ found, ∀ n ≤ 255, item ≠ .number (Text.Decimal.natural n)) →
          signature.ofText text = .error .malformed := by
  have htree := hasTokens_parse .any text
  refine ⟨fun sig => ⟨ofText_toText signature sig, ofText_signature_array sig⟩,
    fun sig => ofText_signature_eq_ok_iff, ?_, ?_, ?_, ?_⟩
  · intro sig raw s hstring hraw hsig
    obtain ⟨tree, rest, hparse, -, hspells⟩ := ofText_signature_eq_ok_iff.mp hsig
    rw [hparse] at hstring
    obtain rfl : tree = .string raw := hstring
    cases hspells with
    | string hraw' hs =>
        obtain rfl := Option.some.inj (hraw.symm.trans hraw')
        rw [hs]
        rfl
  · intro bytes hspells hlength
    exact ofText_eq_error signature (read_signature_of_length_ne htree hspells hlength)
  · intro raw s hstring hraw hflaw
    have hnone : ∀ bytes, ¬ Spells bytes (parse .any text).1 := by
      rw [hstring]
      exact not_spells_string hraw hflaw
    exact ofText_eq_error signature (read_signature_of_not_spells htree hnone)
  · rintro own found harray ⟨item, hmem, hitem⟩
    have hnone : ∀ bytes, ¬ Spells bytes (parse .any text).1 := by
      rw [harray]
      exact not_spells_array hmem hitem
    exact ofText_eq_error signature (read_signature_of_not_spells htree hnone)

/-- Near misses around the signature whose bytes are all seven: its Base64 without the padding, with
one stray bit in front of the padding, an array of three bytes and one with a number too large. -/
theorem signature_spellings_sevens :
    let groups : Bytes := (List.replicate 21 (utf8 "BwcH")).flatten
    signature.ofText ([34] ++ (groups ++ utf8 "Bw") ++ [34]) = .error .malformed ∧
      signature.ofText ([34] ++ (groups ++ utf8 "Bx==") ++ [34]) = .error .malformed ∧
      signature.ofText (utf8 "[1, 2, 3]") = .error (.invalidInput ⟨"Sig", .wrongLength 64 3⟩) ∧
      signature.ofText (utf8 "[7, 256]") = .error .malformed := by
  intro groups
  have hstring : ∀ raw : Bytes, (∀ byte ∈ raw, Literal.IsPlain byte) →
      raw.length % 4 ≠ 0 ∨ Text.Base64.StrayBits raw →
        signature.ofText ([34] ++ raw ++ [34]) = .error .malformed := by
    intro raw hplain hflaw
    have hparse := (compact_of_plain hplain).parse_text .any
    have hutf8 := Text.utf8_ofAscii fun byte hbyte => (hplain byte hbyte).2.2.2
    refine (signature_spellings _).2.2.2.2.1 raw _ (congrArg Prod.fst hparse)
      (Literal.string?_of_plain hplain) ?_
    rw [hutf8]
    exact hflaw
  refine ⟨hstring _ (by decide +kernel) (Or.inl (by decide +kernel)),
    hstring _ (by decide +kernel) (Or.inr (.one groups 66 49 (by decide) (by decide))), ?_, ?_⟩
  · exact (signature_spellings _).2.2.2.1 [1, 2, 3] (.array (utf8 "[1, 2, 3]")) (by decide)
  · have hitem : ∀ n ≤ 255, Json.number [50, 53, 54] ≠ .number (Text.Decimal.natural n) := by
      intro n hn heq
      have hvalue := congrArg Text.Decimal.value (Json.number.inj heq)
      rw [Text.Decimal.value_natural] at hvalue
      rw [← hvalue] at hn
      exact absurd hn (by decide)
    exact (signature_spellings _).2.2.2.2.2 (utf8 "[7, 256]") [.number [55], .number [50, 53, 54]]
      rfl ⟨_, List.mem_cons_of_mem _ List.mem_cons_self, hitem⟩

end Json.Codec

end RollupWallet
