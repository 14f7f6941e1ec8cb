import Mathlib
import RollupWallet.Client.Api
import RollupWallet.CommandLine.Run
import RollupWallet.Proofs.Json.Codec
import RollupWallet.Proofs.Text.Decimal

/-!
# Amounts in text

An amount is read from text in three places: in the answer of the rollup that names a fee, on the
command line, and as a quoted member of a transaction.  The first two take the lenient form, the
third takes digits and nothing else.  Escapes do not matter to it: a text of digits is quoted as it
stands, and in every other text something that is no digit is left (`natural?_encode`).

So the readers never take a text for different numbers, but they do not take the same texts.  They
part over texts with a plus sign or an underscore in them (`amount_readers`).
-/

namespace RollupWallet.CommandLine

open Json Text.Decimal

/-- Where a number that is not there is an error, a result is that number. -/
theorem some_of_ok {ε : Type} {found : Option ℕ} {e : ε} {n : ℕ} :
    (match found with
      | some n => .ok n
      | none => .error e : Except ε ℕ) = .ok n ↔ found = some n := by
  cases found with
  | none => exact ⟨nofun, nofun⟩
  | some m => rw [Except.ok.injEq, Option.some.injEq]

/-! ### Quoted text -/

theorem isPlain_of_isDigit {byte : UInt8} (h : isDigit byte = true) : Literal.IsPlain byte := by
  have hdigit : ∀ d < 10, Literal.IsPlain (UInt8.ofNat (48 + d)) := by decide
  obtain ⟨hlt, heq⟩ := ofNat_of_isDigit h
  exact heq ▸ hdigit _ hlt

/-- What is written for a byte in a quoted text consists of digits only if the byte is one. -/
theorem all_isDigit_escape (byte : UInt8) : (Literal.escape byte).all isDigit = isDigit byte := by
  cases hbyte : isDigit byte with
  | true =>
      rw [Literal.escape_of_plain (isPlain_of_isDigit hbyte), List.all_cons, hbyte]
      rfl
  | false =>
      rcases Literal.escape_cases byte with ⟨letter, -, -, heq⟩ | ⟨-, heq⟩ | ⟨-, -, -, heq⟩
      · rw [heq]
        rfl
      · rw [heq]
        rfl
      · rw [heq, List.all_cons, hbyte]
        rfl

theorem all_isDigit_encode (bytes : Bytes) :
    (Literal.encode bytes).all isDigit = bytes.all isDigit := by
  induction bytes with
  | nil => rfl
  | cons byte bytes ih =>
      rw [Literal.encode, List.flatMap_cons, List.all_append, ← Literal.encode, ih,
        all_isDigit_escape, List.all_cons]

/-- Digits are read from a quoted text as from the text itself. -/
theorem natural?_encode (bytes : Bytes) : natural? (Literal.encode bytes) = natural? bytes := by
  by_cases hdigits : bytes.all isDigit = true
  · rw [Literal.encode_of_plain fun byte hbyte =>
      isPlain_of_isDigit (List.all_eq_true.mp hdigits byte hbyte)]
  · have hraw : ¬ (Literal.encode bytes).all isDigit = true := by
      rw [all_isDigit_encode]
      exact hdigits
    rw [natural?, natural?, if_neg fun h => hraw h.2, if_neg fun h => hdigits h.2]

/-- The tree of a quoted text is read as an amount if the text consists of digits. -/
theorem read_quoted (s : String) {n : ℕ} :
    Codec.amount.read (.string (Literal.encode (Text.utf8 s))) = .ok n ↔
      natural? (Text.utf8 s) = some n := by
  set raw := Literal.encode (Text.utf8 s) with hraw
  -- the quotation marks keep the text UTF-8
  have hmark : Text.IsUtf8 [34] := Text.IsUtf8.of_all rfl
  obtain ⟨text, htext⟩ := (hmark.append (Literal.isUtf8_encode s)).append hmark
  have hsound : (Json.string raw).isSound = true := rfl
  have hread : Text.ofUtf8? (Json.string raw).text = some text := by
    rw [← Text.ofUtf8?_utf8 text, htext]
    rfl
  rw [← natural?_encode, ← hraw]
  simp only [Codec.amount, hsound, hread, Bool.not_true, Bool.false_eq_true, if_false]
  exact some_of_ok

theorem ofText_quoted (s : String) {n : ℕ} :
    Codec.amount.ofText (Codec.string.toText s) = .ok n ↔ natural? (Text.utf8 s) = some n := by
  have hkeeps : Codec.string.Keeps s := Codec.Lawful.keeps s
  rw [Codec.toText, Codec.ofText_of_compact Codec.amount hkeeps.compact]
  exact read_quoted s

/-! ### The lenient readers -/

theorem amount_eq_ok_iff {s : String} {fault : CommandFault} {n : ℕ} :
    amount s fault = .ok n ↔ lenient? (Text.utf8 s) = some n :=
  some_of_ok

theorem fee_eq_ok_iff {s : String} {n : ℕ} :
    (GasFee.mk s).amount = .ok n ↔ lenient? (Text.utf8 s) = some n :=
  some_of_ok

theorem amount_of_not_fee {s : String} (h : ¬ ∃ n, (GasFee.mk s).amount = .ok n)
    (fault : CommandFault) : amount s fault = .error fault := by
  unfold amount
  split
  · next n hread => exact absurd ⟨n, fee_eq_ok_iff.mpr hread⟩ h
  · rfl

/-- On the command line a text that is read as a number counts as the digits of that number. -/
theorem amount_of_fee {s : String} {n : ℕ} (h : (GasFee.mk s).amount = .ok n)
    (fault : CommandFault) : amount s fault = amount (toString n) fault := by
  have hdigits : lenient? (Text.utf8 (toString n)) = some n :=
    lenient?_of_natural? (natural?_natural n)
  rw [amount_eq_ok_iff.mpr (fee_eq_ok_iff.mp h), amount_eq_ok_iff.mpr hdigits]

theorem runPack_of_amount {s t : String} (h : amount s .badAmount = amount t .badAmount) :
    runPack s = runPack t := by
  unfold runPack
  rw [h]

theorem SignArguments.build_of_amount {s t : String}
    (h : amount s .badGasFee = amount t .badGasFee) (now : Int64) (arguments : SignArguments) :
    ({ arguments with gasFee := s } : SignArguments).build now =
      ({ arguments with gasFee := t } : SignArguments).build now := by
  unfold SignArguments.build
  simp only [h]
  rfl

theorem SignArguments.build_eq_badGasFee {s : String} {arguments : SignArguments}
    {request : Request} {options : RequestOptions} (h : amount s .badGasFee = .error .badGasFee)
    (hrequest : arguments.readRequest = .ok request)
    (hoptions : arguments.readOptions = .ok options) (now : Int64) :
    ({ arguments with gasFee := s } : SignArguments).build now = .error .badGasFee := by
  show (do
    let request ← arguments.readRequest
    let options ← arguments.readOptions
    let gasAmount ← amount s .badGasFee
    request.build options
      { gasAccount := arguments.gasAccount, gasAmount, nonce := arguments.nonce, now }) = _
  simp only [hrequest, hoptions, h, ok_bind, error_bind]

/-! ### The readers side by side -/

/-- **The readers of amounts.** A quoted amount is digits and nothing else. A fee, and an amount on
the command line, may carry marks as well, so that the readers part over texts with a plus sign or
an underscore; where two of them give numbers, the numbers are the same. The commands go by the
number alone. -/
theorem amount_readers (s : String) :
    (∀ n, Codec.amount.ofText (Codec.string.toText s) = .ok n ↔
      (Text.utf8 s ≠ [] ∧ (Text.utf8 s).all isDigit = true) ∧ value (Text.utf8 s) = n) ∧
    (∀ n, (GasFee.mk s).amount = .ok n ↔
      ∃ digits, Marks (Text.utf8 s) digits ∧ value digits = n) ∧
    (∀ n fault, amount s fault = .ok n ↔ (GasFee.mk s).amount = .ok n) ∧
    (∀ n, Codec.amount.ofText (Codec.string.toText s) = .ok n ↔
      (GasFee.mk s).amount = .ok n ∧ 43 ∉ Text.utf8 s ∧ 95 ∉ Text.utf8 s) ∧
    (∀ n, (GasFee.mk s).amount = .ok n → runPack s = runPack (toString n) ∧
      ∀ now (arguments : SignArguments),
        ({ arguments with gasFee := s } : SignArguments).build now =
          ({ arguments with gasFee := toString n } : SignArguments).build now) ∧
    ((¬ ∃ n, (GasFee.mk s).amount = .ok n) → runPack s = .error .badAmount ∧
      ∀ now (arguments : SignArguments) request options,
        arguments.readRequest = .ok request → arguments.readOptions = .ok options →
          ({ arguments with gasFee := s } : SignArguments).build now = .error .badGasFee) := by
  refine ⟨fun n => ?_, fun n => ?_, fun n fault => ?_, fun n => ?_, fun n hfee => ⟨?_, ?_⟩,
    fun hfee => ⟨?_, ?_⟩⟩
  · rw [ofText_quoted, natural?_eq_some_iff, and_assoc]
  · rw [fee_eq_ok_iff, lenient?_eq_some_iff]
  · rw [amount_eq_ok_iff, fee_eq_ok_iff]
  · rw [ofText_quoted, fee_eq_ok_iff]
    constructor
    · intro hread
      have hlenient := lenient?_of_natural? hread
      exact ⟨hlenient, (natural?_eq_some_iff_of_lenient? hlenient).mp hread⟩
    · rintro ⟨hlenient, hmarks⟩
      exact (natural?_eq_some_iff_of_lenient? hlenient).mpr hmarks
  · exact runPack_of_amount (amount_of_fee hfee _)
  · exact SignArguments.build_of_amount (amount_of_fee hfee _)
  · unfold runPack
    rw [amount_of_not_fee hfee, error_bind]
  · intro now arguments request options hrequest hoptions
    exact SignArguments.build_eq_badGasFee (amount_of_not_fee hfee _) hrequest hoptions now

/-- The cancellation of an offer with a given fee. -/
def cancelArguments (gasFee : String) : SignArguments where
  kind := .cancelOffer
  request := "\x7b\"OfferId\":7\x7d"
  options := "\x7b\"FromAccountIndex\":2\x7d"
  seed := none
  gasAccount := 1
  gasFee := gasFee
  nonce := 9

/-- A number with marks, and a text that is none. -/
theorem amount_readers_thousand :
    (GasFee.mk "1_000").amount = .ok 1000 ∧ runPack "1_000" = runPack "1000" ∧
      runPack "1,000" = .error .badAmount ∧
      (cancelArguments "1,000").build 5 = .error .badGasFee := by
  have hfee : (GasFee.mk "1_000").amount = .ok 1000 := fee_eq_ok_iff.mpr (by decide)
  have hnot : ¬ ∃ n, (GasFee.mk "1,000").amount = .ok n := by
    rintro ⟨n, hn⟩
    have hread : lenient? (Text.utf8 "1,000") = none := by decide
    exact absurd (hread.symm.trans (fee_eq_ok_iff.mp hn)) (Option.some_ne_none n).symm
  obtain ⟨-, -, -, -, hpack, -⟩ := amount_readers "1_000"
  obtain ⟨-, -, -, -, -, hbad⟩ := amount_readers "1,000"
  have hrequest : (cancelArguments "0").readRequest = .ok (.cancelOffer ⟨7⟩) := by rfl
  refine ⟨hfee, (hpack 1000 hfee).1, (hbad hnot).1, ?_⟩
  exact (hbad hnot).2 5 (cancelArguments "0") _ _ hrequest (by rfl)

/-- The readers part over an underscore. -/
theorem amount_readers_underscore :
    (GasFee.mk "1_").amount = .ok 1 ∧ amount "1_" .badAmount = .ok 1 ∧
      amount "1_" .badGasFee = .ok 1 ∧
      Codec.amount.ofText (Codec.string.toText "1_") = .error (.notAmount "\"1_\"") := by
  have hread : lenient? (Text.utf8 "1_") = some 1 := by decide
  have hquoted : Codec.amount.ofText (Codec.string.toText "1_") = .error (.notAmount "\"1_\"") := by
    decide +kernel
  exact ⟨fee_eq_ok_iff.mpr hread, amount_eq_ok_iff.mpr hread, amount_eq_ok_iff.mpr hread, hquoted⟩

end RollupWallet.CommandLine
