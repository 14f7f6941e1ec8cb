import Mathlib
import RollupWallet.Proofs.Json.Quotes

/-!
# Arrays where words are expected

An array that is read as a word has a rule of its own for what follows the last byte: one more item
may stand there, provided that it is no byte, and is passed over.  The reader does not go by the
grammar there.  It may stop in the middle of that item, even inside a string, and goes on from
there.

What is left of an item is settled by the item alone, whatever follows it (`Laid.exists_remains`):
nothing, or something that does not start with the end of the array, or the inside of a string.  So
either the reader keeps its place, and what it gives is told from the tree (`seen`), or it comes to
no end at all, or it takes the inside of a string for the outside from there on (`Laid.read`).

In the last case it cannot come to a good end.  The text ends outside of strings, the reader takes
this for the inside, and only a second word could turn it round again (`LaidMembers.read`).
-/

namespace RollupWallet.Json

open Text.Decimal (isDigit)

/-! ### What is left of an item -/

/-- What may be left of an item that stands where a word has all its bytes: the item is a byte and
refused, or nothing is left, or something that starts with neither a blank nor the end of the array,
or the end of a string. -/
inductive Remains : Option Bytes → Prop where
  | refused : Remains none
  | nothing : Remains (some [])
  | something {byte : UInt8} {others : Bytes} (hblank : isBlank byte = false) (hbyte : byte ≠ 93) :
      Remains (some (byte :: others))
  | inside {raw : Bytes} (hraw : IsRaw raw) : Remains (some (raw ++ [34]))

/-- If something is left, an array ends behind it only for a reader that is inside a string. -/
theorem Remains.scan {left : Option Bytes} (h : Remains left) (hne : left ≠ some [])
    {rest behind : Bytes} (hend : (left.map (· ++ rest)).map skipBlanks = some (93 :: behind)) :
    scan true behind = Json.scan false rest := by
  cases h with
  | refused => cases hend
  | nothing => exact absurd rfl hne
  | something hblank hbyte =>
      rw [Option.map_some, Option.map_some, List.cons_append, skipBlanks_cons hblank] at hend
      exact absurd (List.cons.inj (Option.some.inj hend)).1 hbyte
  | @inside raw hraw =>
      rw [Option.map_some, Option.map_some, List.append_assoc] at hend
      rw [← scan_of_skipBlanks (Option.some.inj hend) (by decide), hraw.scan]
      exact scan_quote true rest

theorem remains_of_digits {digits : Bytes} (h : digits.all isDigit = true) :
    Remains (some digits) := by
  cases digits with
  | nil => exact .nothing
  | cons byte others =>
      have hbyte : isDigit byte = true := List.all_eq_true.mp h byte List.mem_cons_self
      refine .something (isBlank_of_starts_number (Or.inl hbyte)) ?_
      exact ne_of_starts_number (Or.inl hbyte) (by decide)

/-! A number is left at the place where its exponent becomes too large, if it does. -/

theorem afterPower_append {digits : Bytes} (hdigits : digits.all isDigit = true) (grows : Bool)
    (exponent : ℕ) : ∃ left, left.all isDigit = true ∧
      ∀ rest, Follows rest → Refused.afterPower grows exponent (digits ++ rest) = left ++ rest := by
  induction digits generalizing exponent with
  | nil =>
      refine ⟨[], rfl, fun rest hrest => ?_⟩
      cases rest with
      | nil => rfl
      | cons byte rest =>
          have hbyte := (hrest.head byte rfl).1
          simp only [List.nil_append, Refused.afterPower, hbyte, Bool.not_false, if_true]
  | cons byte digits ih =>
      rw [List.all_cons, Bool.and_eq_true] at hdigits
      obtain ⟨hbyte, hdigits⟩ := hdigits
      by_cases hlarge : (grows && Refused.maxExponent < exponent * 10 + (byte.toNat - 48)) = true
      · refine ⟨digits, hdigits, fun rest _ => ?_⟩
        simp only [List.cons_append, Refused.afterPower, hbyte, Bool.not_true, Bool.false_eq_true,
          if_false, hlarge, if_true]
      · obtain ⟨left, hleft, hread⟩ := ih hdigits (exponent * 10 + (byte.toNat - 48))
        refine ⟨left, hleft, fun rest hrest => ?_⟩
        simp only [List.cons_append, Refused.afterPower, hbyte, Bool.not_true, Bool.false_eq_true,
          if_false, hlarge, hread rest hrest]

theorem afterFraction_append {exponent : Bytes} (h : IsExponent exponent) (isZero : Bool) :
    ∃ left, left.all isDigit = true ∧
      ∀ rest, Follows rest → Refused.afterFraction isZero (exponent ++ rest) = left ++ rest := by
  rcases h with rfl | ⟨mark, sign, digits, hmark, hsign, hdigits, rfl⟩
  · refine ⟨[], rfl, fun rest hrest => ?_⟩
    cases rest with
    | nil => rfl
    | cons byte rest =>
        obtain ⟨-, -, hlower, hupper⟩ := hrest.head byte rfl
        rw [List.nil_append, Refused.afterFraction.eq_def]
        exact if_neg (not_or.mpr ⟨hlower, hupper⟩)
  · obtain ⟨first, others, rfl, hfirst⟩ := hdigits.exists_cons
    have hothers : others.all isDigit = true := by
      have hall := hdigits.2
      rw [List.all_cons, Bool.and_eq_true] at hall
      exact hall.2
    -- a digit is no sign
    have hplus : first ≠ 43 ∧ first ≠ 45 := by
      constructor <;> rintro rfl <;> exact absurd hfirst (by decide)
    obtain ⟨left, hleft, hread⟩ := afterPower_append hothers (!isZero && sign.head? ≠ some 45)
      (first.toNat - 48)
    refine ⟨left, hleft, fun rest hrest => ?_⟩
    rw [List.cons_append, Refused.afterFraction.eq_def]
    simp only [if_pos hmark]
    rcases hsign with rfl | rfl | rfl
    · simp [hplus, hfirst, ← hread rest hrest]
    · simp [hfirst, ← hread rest hrest]
    · simp [hfirst, ← hread rest hrest]

theorem afterWhole_append {fraction exponent : Bytes} (hfraction : IsFraction fraction)
    (hexponent : IsExponent exponent) (isZero : Bool) :
    ∃ left, left.all isDigit = true ∧ ∀ rest, Follows rest →
      Refused.afterWhole isZero (fraction ++ (exponent ++ rest)) = left ++ rest := by
  rcases hfraction with rfl | ⟨digits, hdigits, rfl⟩
  · obtain ⟨left, hleft, hread⟩ := afterFraction_append hexponent isZero
    refine ⟨left, hleft, fun rest hrest => ?_⟩
    rw [← hread rest hrest, List.nil_append]
    unfold Refused.afterWhole
    split
    · next others heq =>
      have hpoint := hexponent.stops hrest
      rw [heq] at hpoint
      exact absurd rfl (hpoint 46 rfl).2
    · rfl
  · obtain ⟨left, hleft, hread⟩ := afterFraction_append hexponent
      (isZero && digits.all (· = 48))
    refine ⟨left, hleft, fun rest hrest => ?_⟩
    have hstops := hexponent.stops hrest
    rw [← hread rest hrest, List.cons_append, Refused.afterWhole,
      digits?_of_stops hdigits fun byte hbyte => (hstops byte hbyte).1]

theorem afterSign_append {whole fraction exponent : Bytes} (hwhole : IsWhole whole)
    (hfraction : IsFraction fraction) (hexponent : IsExponent exponent) :
    ∃ left, left.all isDigit = true ∧ ∀ rest, Follows rest →
      Refused.afterSign (whole ++ (fraction ++ (exponent ++ rest))) = left ++ rest := by
  have hhead (rest : Bytes) (hrest : Follows rest) :
      ∀ byte ∈ (fraction ++ (exponent ++ rest)).head?, isDigit byte = false :=
    hfraction.head (hexponent.stops hrest)
  obtain ⟨first, others, rfl, hfirst⟩ := hwhole.1.exists_cons
  by_cases hzero : first = 48
  · subst hzero
    obtain rfl := hwhole.2 others rfl
    obtain ⟨left, hleft, hread⟩ := afterWhole_append hfraction hexponent true
    refine ⟨left, hleft, fun rest hrest => ?_⟩
    have hdigit : (fraction ++ (exponent ++ rest)).head?.any isDigit = false := by
      rw [Option.any_eq_false]
      intro byte hbyte
      exact hhead rest hrest byte hbyte
    rw [← hread rest hrest, List.cons_append, List.nil_append, Refused.afterSign, hdigit]
    rfl
  · obtain ⟨left, hleft, hread⟩ := afterWhole_append hfraction hexponent false
    refine ⟨left, hleft, fun rest hrest => ?_⟩
    have hothers : ∀ byte ∈ others, isDigit byte = true := fun byte hbyte =>
      List.all_eq_true.mp hwhole.1.2 byte (List.mem_cons_of_mem _ hbyte)
    have hdrop : (others ++ (fraction ++ (exponent ++ rest))).dropWhile isDigit =
        fraction ++ (exponent ++ rest) := by
      rw [List.dropWhile_append_of_pos hothers, (no_digits_of_head (hhead rest hrest)).2]
    rw [← hread rest hrest, List.cons_append, Refused.afterSign.eq_def]
    simp only [hfirst, hdrop, if_true]

/-! Inside a string the reader stops behind an escape that is half of a pair, or behind what follows
such a half. -/

theorem IsRaw.exists_remains {raw : Bytes} (h : IsRaw raw) :
    ∃ left, Remains (some left) ∧ ∀ rest : Bytes, raw ++ 34 :: rest = left ++ rest :=
  ⟨raw ++ [34], .inside h, fun rest => by rw [List.append_assoc, List.singleton_append]⟩

/-- Behind the first half of a pair the reader goes on only if the second half follows. -/
theorem afterString_high {a b c d : UInt8} {unit : ℕ} (hunit : Literal.unit? a b c d = some unit)
    (hhigh : Literal.isHigh unit = true) {raw : Bytes} (hraw : IsRaw raw)
    (hshorter : ∀ {behind : Bytes}, IsRaw behind → behind.length < raw.length →
      ∃ left, Remains (some left) ∧
        ∀ rest, Refused.afterString (behind ++ 34 :: rest) = left ++ rest) :
    ∃ left, Remains (some left) ∧
      ∀ rest, Refused.afterString (92 :: 117 :: a :: b :: c :: d :: (raw ++ 34 :: rest)) =
        left ++ rest := by
  cases hraw with
  | nil =>
      refine ⟨[], .nothing, fun rest => ?_⟩
      simp [Refused.afterString, hunit, hhigh]
  | @plain byte behind hbyte hbehind =>
      obtain ⟨left, hleft, hread⟩ := hbehind.exists_remains
      refine ⟨left, hleft, fun rest => ?_⟩
      rw [← hread rest]
      simp [Refused.afterString, hunit, hhigh, hbyte]
  | @escape letter byte behind hletter hbehind =>
      obtain ⟨left, hleft, hread⟩ := hbehind.exists_remains
      refine ⟨left, hleft, fun rest => ?_⟩
      rw [← hread rest]
      simp [Refused.afterString, hunit, hhigh, Literal.ne_of_ofShortEscape? hletter]
  | @unicode a' b' c' d' low behind hlow hbehind =>
      by_cases hpair : Literal.isLow low = true
      · simp only [List.length_cons] at hshorter
        obtain ⟨left, hleft, hread⟩ := hshorter hbehind (by omega)
        refine ⟨left, hleft, fun rest => ?_⟩
        rw [← hread rest]
        simp [Refused.afterString, hunit, hhigh, hlow, hpair]
      · obtain ⟨left, hleft, hread⟩ := hbehind.exists_remains
        refine ⟨left, hleft, fun rest => ?_⟩
        rw [← hread rest]
        simp [Refused.afterString, hunit, hhigh, hlow, hpair]

/-- Behind an escape that is no first half the reader goes on unless it is a second one. -/
theorem afterString_not_high {a b c d : UInt8} {unit : ℕ}
    (hunit : Literal.unit? a b c d = some unit) (hhigh : ¬ Literal.isHigh unit = true)
    (rest : Bytes) : Refused.afterString (92 :: 117 :: a :: b :: c :: d :: rest) =
      if Literal.isLow unit then rest else Refused.afterString rest := by
  rw [Refused.afterString.eq_def]
  simp only [hunit, if_neg hhigh]

theorem afterString_append {raw : Bytes} (hraw : IsRaw raw) : ∃ left, Remains (some left) ∧
    ∀ rest, Refused.afterString (raw ++ 34 :: rest) = left ++ rest := by
  -- on the length, since a pair is passed over in one step
  induction hlength : raw.length using Nat.strong_induction_on generalizing raw with
  | _ length ih =>
      subst hlength
      have hshorter {behind : Bytes} (hbehind : IsRaw behind) (hlt : behind.length < raw.length) :=
        ih _ hlt hbehind rfl
      cases hraw with
      | nil => exact ⟨[], .nothing, fun rest => rfl⟩
      | @plain byte behind hbyte hbehind =>
          obtain ⟨hcontrol, hquote, hback⟩ := hbyte
          obtain ⟨left, hleft, hread⟩ := hshorter hbehind (by simp)
          refine ⟨left, hleft, fun rest => ?_⟩
          rw [← hread rest, List.cons_append, Refused.afterString,
            if_neg (not_or.mpr ⟨hcontrol, hback⟩)]
          all_goals
            intros
            contradiction
      | @escape letter byte behind hletter hbehind =>
          have hlong := Literal.ne_of_ofShortEscape? hletter
          obtain ⟨left, hleft, hread⟩ := hshorter hbehind (by simp only [List.length_cons]; omega)
          refine ⟨left, hleft, fun rest => ?_⟩
          rw [← hread rest, List.cons_append, List.cons_append, Refused.afterString, hletter]
          · rfl
          all_goals
            intros
            contradiction
      | @unicode a b c d unit behind hunit hbehind =>
          simp only [List.length_cons] at hshorter
          simp only [List.cons_append]
          by_cases hhigh : Literal.isHigh unit = true
          · exact afterString_high hunit hhigh hbehind fun h hlt => hshorter h (by omega)
          · simp only [afterString_not_high hunit hhigh]
            by_cases hlow : Literal.isLow unit = true
            · simp only [if_pos hlow]
              exact hbehind.exists_remains
            · simp only [if_neg hlow]
              exact hshorter hbehind (by omega)

/-- A number is refused as a byte, or only digits of its exponent are left. -/
theorem IsNumber.exists_remains {token : Bytes} (h : IsNumber token) :
    ∃ left, Remains left ∧
      ∀ rest, Follows rest → afterRefused? (token ++ rest) = left.map (· ++ rest) := by
  by_cases hbyte : (Text.Decimal.natural? token).any (· < 256) = true
  · refine ⟨none, .refused, fun rest hrest => ?_⟩
    have hstarts : startsWithByte (token ++ rest) = true := by
      simp only [startsWithByte, h.number? hrest, hbyte]
    rw [afterRefused?.eq_def, if_pos hstarts]
    rfl
  · have hstarts (rest : Bytes) (hrest : Follows rest) :
        ¬ startsWithByte (token ++ rest) = true := by
      simp only [startsWithByte, h.number? hrest]
      exact hbyte
    obtain @⟨sign, whole, fraction, exponent, hsign, hwhole, hfraction, hexponent⟩ := h
    obtain ⟨left, hleft, hread⟩ := afterSign_append hwhole hfraction hexponent
    refine ⟨some left, remains_of_digits hleft, fun rest hrest => ?_⟩
    have hnot := hstarts rest hrest
    rw [Option.map_some, ← hread rest hrest]
    obtain ⟨first, others, rfl, hfirst⟩ := hwhole.1.exists_cons
    have hother {other : UInt8} (hother : isDigit other = false) : first ≠ other := by
      rintro rfl
      exact Bool.false_ne_true (hother.symm.trans hfirst)
    simp only [List.append_assoc, List.cons_append] at hnot ⊢
    rw [afterRefused?.eq_def, if_neg hnot]
    rcases hsign with rfl | rfl
    · rw [List.nil_append]
      split
      · next heq => exact absurd (List.cons.inj heq).1 (hother rfl)
      · next heq => exact absurd (List.cons.inj heq).1 (hother rfl)
      · next heq => exact absurd (List.cons.inj heq).1 (hother rfl)
      · next heq => exact absurd (List.cons.inj heq).1 (hother rfl)
      · next heq => exact absurd (List.cons.inj heq).1 (hother rfl)
      · next heq =>
        obtain ⟨rfl, rfl⟩ := List.cons.inj heq
        rw [if_pos hfirst]
      · next heq => cases heq
    · rfl

/-- **What is left of an item is settled by the item alone**, whatever follows it. -/
theorem Laid.exists_remains {tree : Json} (h : Laid tree) :
    ∃ left, Remains left ∧
      ∀ rest, Follows rest → afterRefused? (tree.text ++ rest) = left.map (· ++ rest) := by
  cases h with
  | null => exact ⟨_, .nothing, fun rest _ => rfl⟩
  | bool value =>
      cases value
      · exact ⟨_, .nothing, fun rest _ => rfl⟩
      · exact ⟨_, .nothing, fun rest _ => rfl⟩
  | number htoken => exact htoken.exists_remains
  | @string raw hraw =>
      obtain ⟨left, hleft, hread⟩ := afterString_append hraw
      refine ⟨some left, hleft, fun rest _ => ?_⟩
      have htext : (Json.string raw).text ++ rest = 34 :: (raw ++ 34 :: rest) := by
        simp [Json.text]
      rw [Option.map_some, ← hread rest, htext]
      rfl
  | noItems => exact ⟨_, .something (by decide) (by decide), fun rest _ => rfl⟩
  | array => exact ⟨_, .something (by decide) (by decide), fun rest _ => rfl⟩
  | noMembers => exact ⟨_, .something (by decide) (by decide), fun rest _ => rfl⟩
  | object => exact ⟨_, .something (by decide) (by decide), fun rest _ => rfl⟩

/-- Whether an item is passed over where a word has all its bytes. -/
def passes : Json → Bool
  | .array _ _ | .object _ _ | .gap | .fault => false
  | tree => afterRefused? (tree.text ++ [93]) = some [93]

/-- Whether an item is passed over shows in front of the end of an array. -/
theorem Laid.passes_iff {tree : Json} (h : Laid tree) :
    tree.passes = true ↔ afterRefused? (tree.text ++ [93]) = some [93] := by
  cases h with
  | null => simp only [passes, decide_eq_true_eq]
  | bool value => simp only [passes, decide_eq_true_eq]
  | number => simp only [passes, decide_eq_true_eq]
  | string => simp only [passes, decide_eq_true_eq]
  | noItems => exact ⟨nofun, nofun⟩
  | array => exact ⟨nofun, nofun⟩
  | noMembers => exact ⟨nofun, nofun⟩
  | object => exact ⟨nofun, nofun⟩

/-- An item that is passed over is passed over whatever follows it; behind any other one an array
ends only for a reader that is inside a string. -/
theorem Laid.passes_cases {tree : Json} (h : Laid tree) :
    (tree.passes = true ∧ ∀ rest, Follows rest → afterRefused? (tree.text ++ rest) = some rest) ∨
      (tree.passes = false ∧ ∀ rest behind, Follows rest →
        (afterRefused? (tree.text ++ rest)).map skipBlanks = some (93 :: behind) →
          Json.scan true behind = Json.scan false rest) := by
  obtain ⟨left, hleft, hread⟩ := h.exists_remains
  have hbracket : Follows [93] := Or.inr (Or.inr (Or.inl rfl))
  have hpasses := h.passes_iff
  rw [hread [93] hbracket] at hpasses
  by_cases hnothing : left = some []
  · subst hnothing
    exact Or.inl ⟨hpasses.mpr rfl, hread⟩
  · have hnot : ¬ left.map (· ++ [93]) = some [93] := by
      intro heq
      obtain ⟨others, rfl, hothers⟩ := Option.map_eq_some_iff.mp heq
      exact hnothing (congrArg some (List.append_left_eq_self.mp hothers))
    refine Or.inr ⟨Bool.eq_false_iff.mpr fun hpass => hnot (hpasses.mp hpass), ?_⟩
    intro rest behind hrest hend
    rw [hread rest hrest] at hend
    exact hleft.scan hnothing hend

/-! ### Words -/

/-- What the reader makes of items where so many bytes of a word are still to come, if it keeps its
place. -/
def seenItems : ℕ → List Json → Option (List Json)
  | _, [] => some []
  | 0, [last] => if last.passes then some [.gap] else none
  | 0, _ :: _ :: _ => none
  | remaining + 1, item :: found => (item :: ·) <$> seenItems remaining found

/-- What the reader makes of a value, given what is expected; a `fault` where it loses its place. -/
def seen : Shape → Json → Json
  | .word length, .array own found =>
    match seenItems length found with
    | some read => .array own read
    | none => .fault
  | _, tree => tree

theorem seen_of_wordless {shape : Shape} (h : shape.Wordless) (tree : Json) :
    seen shape tree = tree := by
  cases h <;> rfl

/-- The first item of a word is read in any case, and what stands behind its comma goes by whether
it was the last byte. -/
theorem items_word_iff {item : Json} {found : List Json} {text inner : Bytes} (hitem : Laid item)
    (htext : Spaced item text) (hfound : LaidItems found inner) {remaining fuel : ℕ}
    (hfuel : item.text.length < fuel) (rest : Bytes) {read : List Json} {behind : Bytes} :
    items (fuel + 1) (.word (remaining + 1)) (text ++ 44 :: inner ++ 93 :: rest) =
        (read, some behind) ↔
      (Shape.word remaining).isFull = true ∧
          (afterRefused? (skipBlanks (inner ++ 93 :: rest))).map skipBlanks = some (93 :: behind) ∧
          read = [item, .gap] ∨
        (Shape.word remaining).isFull = false ∧
          ∃ others, items fuel (.word remaining) (inner ++ 93 :: rest) = (others, some behind) ∧
            read = item :: others := by
  have hcomma : Follows (44 :: (inner ++ 93 :: rest)) := Or.inr (Or.inl rfl)
  obtain ⟨back, hback, hvalue⟩ := htext.value_eq hcomma fun rest hrest =>
    hitem.value_eq .any hfuel hrest
  have hnext := skipBlanks_append_cons hback isBlank_comma (inner ++ 93 :: rest)
  have hne := hfound.skipBlanks_ne (93 :: rest)
  have hshape : (Shape.word (remaining + 1)).item = .any := rfl
  rw [List.append_assoc, List.cons_append, items_iff, ← items_skipBlanks, hshape]
  constructor
  · rintro ⟨item', rest', hread, hend⟩
    rw [hvalue] at hread
    obtain ⟨rfl, hrest'⟩ := Prod.mk.inj hread
    rw [← Option.some.inj hrest', hnext] at hend
    rcases hend with ⟨hbracket, -⟩ | ⟨next, hcomma, ⟨hbracket, -⟩ | ⟨-, hend⟩⟩
    · exact absurd (List.cons.inj hbracket).1 (by decide)
    · rw [← (List.cons.inj hcomma).2] at hbracket
      exact absurd hbracket (hne behind)
    · rw [← (List.cons.inj hcomma).2] at hend
      exact hend
  · intro hend
    exact ⟨item, _, hvalue, Or.inr ⟨_, hnext, Or.inr ⟨hne, hend⟩⟩⟩

/-- The only item of a word. -/
theorem Spaced.items_word_eq {item : Json} {text : Bytes} (htext : Spaced item text)
    (hitem : Laid item) {remaining fuel : ℕ} (hfuel : text.length < fuel) (rest : Bytes) :
    items (fuel + 1) (.word (remaining + 1)) (text ++ 93 :: rest) = ([item], some rest) := by
  have hlength := htext.length_le
  refine htext.items_eq (fun rest hrest => ?_) rest
  exact hitem.value_eq .any (by omega) hrest

/-- The item that follows the last byte of a word. -/
theorem LaidItems.read_last {found : List Json} {inner : Bytes} (h : LaidItems found inner)
    (rest : Bytes) :
    (seenItems 0 found = some [.gap] ∧
      (afterRefused? (skipBlanks (inner ++ 93 :: rest))).map skipBlanks = some (93 :: rest)) ∨
    (seenItems 0 found = none ∧ ∀ behind,
      (afterRefused? (skipBlanks (inner ++ 93 :: rest))).map skipBlanks = some (93 :: behind) →
        Json.scan true behind = Json.scan false rest) := by
  have hskip {item : Json} {text : Bytes} (hitem : Laid item) (htext : Spaced item text) :
      ∃ back, IsBlanks back ∧ ∀ rest, skipBlanks (text ++ rest) = item.text ++ (back ++ rest) := by
    obtain ⟨front, back, hfront, hback, rfl⟩ := htext
    obtain ⟨byte, others, heq, hblank, -⟩ := hitem.begins
    refine ⟨back, hback, fun rest => ?_⟩
    rw [List.append_assoc, skipBlanks_append hfront, heq, List.append_assoc, List.cons_append,
      skipBlanks_cons hblank]
  cases h with
  | @last item text hitem htext =>
      obtain ⟨back, hback, hread⟩ := hskip hitem htext
      have hbracket := skipBlanks_append_cons hback isBlank_bracket.2 rest
      have hfollows : Follows (back ++ 93 :: rest) :=
        Follows.append hback (Or.inr (Or.inr (Or.inl rfl)))
      rw [hread]
      rcases hitem.passes_cases with ⟨hpass, hafter⟩ | ⟨hpass, hafter⟩
      · refine Or.inl ⟨by rw [seenItems, if_pos hpass], ?_⟩
        rw [hafter _ hfollows, Option.map_some, hbracket]
      · refine Or.inr ⟨?_, fun behind hend => ?_⟩
        · rw [seenItems, hpass]
          rfl
        · rw [hafter _ behind hfollows hend]
          exact scan_of_skipBlanks hbracket (by decide)
  | @more item others text inner hitem htext hothers =>
      obtain ⟨back, hback, hread⟩ := hskip hitem htext
      have hcomma := skipBlanks_append_cons hback isBlank_comma (inner ++ 93 :: rest)
      have hfollows : Follows (back ++ 44 :: (inner ++ 93 :: rest)) :=
        Follows.append hback (Or.inr (Or.inl rfl))
      have hnone : seenItems 0 (item :: others) = none := by
        cases hothers <;> rfl
      rw [List.append_assoc, List.cons_append, hread]
      refine Or.inr ⟨hnone, fun behind hend => ?_⟩
      rcases hitem.passes_cases with ⟨-, hafter⟩ | ⟨-, hafter⟩
      · rw [hafter _ hfollows, Option.map_some, hcomma] at hend
        exact absurd (List.cons.inj (Option.some.inj hend)).1 (by decide)
      · rw [hafter _ behind hfollows hend, scan_of_skipBlanks hcomma (by decide)]
        exact hothers.scan rest

/-- **Items of a word.**  Either the reader keeps its place, or an end that it comes to is one
inside of a string. -/
theorem LaidItems.read_word {found : List Json} {inner : Bytes} (h : LaidItems found inner)
    {remaining fuel : ℕ} (hfuel : inner.length + 1 < fuel) (rest : Bytes) :
    (∃ read, seenItems (remaining + 1) found = some read ∧
      items fuel (.word (remaining + 1)) (inner ++ 93 :: rest) = (read, some rest)) ∨
    (seenItems (remaining + 1) found = none ∧ ∀ read behind,
      items fuel (.word (remaining + 1)) (inner ++ 93 :: rest) = (read, some behind) →
        Json.scan true behind = Json.scan false rest) := by
  induction remaining generalizing found inner fuel with
  | zero =>
      obtain ⟨fuel, rfl⟩ := Nat.exists_eq_succ_of_ne_zero (Nat.ne_zero_of_lt hfuel)
      cases h with
      | @last item text hitem htext =>
          exact Or.inl ⟨[item], rfl, htext.items_word_eq hitem (by omega) rest⟩
      | @more item others text inner hitem htext hothers =>
          have hlength := htext.length_le
          rw [List.length_append] at hfuel
          have hread := @items_word_iff _ _ _ _ hitem htext hothers 0 fuel (by omega) rest
          rw [seenItems]
          rcases hothers.read_last rest with ⟨hseen, hend⟩ | ⟨hseen, hend⟩
          · rw [hseen]
            exact Or.inl ⟨[item, .gap], rfl, hread.mpr (Or.inl ⟨rfl, hend, rfl⟩)⟩
          · rw [hseen]
            refine Or.inr ⟨rfl, fun read behind hitems => ?_⟩
            rcases hread.mp hitems with ⟨-, hafter, -⟩ | ⟨hfull, -⟩
            · exact hend behind hafter
            · cases hfull
  | succ remaining ih =>
      obtain ⟨fuel, rfl⟩ := Nat.exists_eq_succ_of_ne_zero (Nat.ne_zero_of_lt hfuel)
      cases h with
      | @last item text hitem htext =>
          exact Or.inl ⟨[item], rfl, htext.items_word_eq hitem (by omega) rest⟩
      | @more item others text inner hitem htext hothers =>
          have hlength := htext.length_le
          rw [List.length_append, List.length_cons] at hfuel
          have hread := @items_word_iff _ _ _ _ hitem htext hothers (remaining + 1) fuel (by omega)
            rest
          rw [seenItems]
          rcases @ih _ _ hothers fuel (by omega) with ⟨read, hseen, hitems⟩ | ⟨hseen, hend⟩
          · rw [hseen]
            exact Or.inl ⟨item :: read, rfl, hread.mpr (Or.inr ⟨rfl, read, hitems, rfl⟩)⟩
          · rw [hseen]
            refine Or.inr ⟨rfl, fun read behind hitems => ?_⟩
            rcases hread.mp hitems with ⟨hfull, -⟩ | ⟨-, others', hothers', -⟩
            · cases hfull
            · exact hend others' behind hothers'

/-- **A value where a word or anything but a word is expected.**  Either the reader keeps its place,
or an end that it comes to is one inside of a string. -/
theorem Laid.read {tree : Json} (h : Laid tree) {shape : Shape}
    (hshape : shape.Wordless ∨ ∃ remaining, shape = .word (remaining + 1)) {fuel : ℕ}
    (hfuel : tree.text.length < fuel) {rest : Bytes} (hrest : Follows rest) :
    value fuel shape (tree.text ++ rest) = (seen shape tree, some rest) ∨
    (seen shape tree = .fault ∧ ∀ read behind,
      value fuel shape (tree.text ++ rest) = (read, some behind) →
        Json.scan true behind = Json.scan false rest) := by
  rcases hshape with hwordless | ⟨remaining, rfl⟩
  · rw [seen_of_wordless hwordless]
    exact Or.inl (h.value_eq hwordless hfuel hrest)
  · obtain ⟨fuel, rfl⟩ := Nat.exists_eq_succ_of_ne_zero (Nat.ne_zero_of_lt hfuel)
    cases h with
    | null => exact Or.inl (value_scalar .null rfl (Nat.succ_pos _) _ hrest)
    | bool value => exact Or.inl (value_scalar (.bool value) rfl (Nat.succ_pos _) _ hrest)
    | number h => exact Or.inl (value_scalar (.number h) rfl (Nat.succ_pos _) _ hrest)
    | string h => exact Or.inl (value_scalar (.string h) rfl (Nat.succ_pos _) _ hrest)
    | noItems hgap => exact Or.inl (value_noItems hgap fuel _ rest)
    | noMembers hgap => exact Or.inl (value_noMembers hgap fuel _ rest)
    | @object inner found hfound =>
        simp only [Json.text, List.length_cons, List.length_append] at hfuel
        have hany : ∀ m ∈ found,
            ((Shape.word (remaining + 1)).member (Literal.string? m.1)).Wordless := fun _ _ => .any
        exact Or.inl (hfound.value_eq (hfound.members_eq hany (by omega) rest))
    | @array inner found hfound =>
        simp only [Json.text, List.length_cons, List.length_append] at hfuel
        have hitems : inner.length + 1 < fuel := by omega
        rw [seen]
        rcases hfound.read_word hitems rest with ⟨read, hseen, hitems⟩ | ⟨hseen, hend⟩
        · rw [hseen]
          exact Or.inl (hfound.value_eq hitems)
        · rw [hseen]
          refine Or.inr ⟨rfl, fun read behind hvalue => ?_⟩
          rw [Json.text, List.cons_append, List.append_assoc, value_array_iff] at hvalue
          rcases hvalue with ⟨hbracket, -⟩ | ⟨-, others, hothers, -⟩
          · exact absurd hbracket (hfound.skipBlanks_ne _ _)
          · exact hend others behind hothers

/-! ### Objects with words among their members -/

/-- What the reader makes of the members of an object. -/
def seenMembers (shape : Shape) (found : List (Bytes × Json)) : List (Bytes × Json) :=
  found.map fun m => (m.1, seen (shape.member (Literal.string? m.1)) m.2)

/-- At most one of the members is one where a word is expected. -/
def OneWord (shape : Shape) (found : List (Bytes × Json)) : Prop :=
  found.Pairwise fun a b => (shape.member (Literal.string? a.1)).Wordless ∨
    (shape.member (Literal.string? b.1)).Wordless

/-- Every member is a word or has no word in it. -/
def Shape.HasPlainWords (shape : Shape) : Prop :=
  ∀ name, (shape.member name).Wordless ∨ ∃ remaining, shape.member name = .word (remaining + 1)

/-- The reader loses its place between blanks as without them, and only in a word. -/
theorem Spaced.read {tree : Json} {text : Bytes} (htext : Spaced tree text) (h : Laid tree)
    {shape : Shape} (hshape : shape.Wordless ∨ ∃ remaining, shape = .word (remaining + 1))
    {fuel : ℕ} (hfuel : text.length < fuel) {rest : Bytes} (hrest : Follows rest) :
    (∃ back, IsBlanks back ∧
      value fuel shape (text ++ rest) = (seen shape tree, some (back ++ rest))) ∨
    (seen shape tree = .fault ∧ ¬ shape.Wordless ∧ ∀ read behind,
      value fuel shape (text ++ rest) = (read, some behind) →
        Json.scan true behind = Json.scan false rest) := by
  have hlength := htext.length_le
  obtain ⟨front, back, hfront, hback, rfl⟩ := htext
  rw [List.append_assoc, value_blanks hfront, List.append_assoc]
  rcases h.read hshape (Nat.lt_of_le_of_lt hlength hfuel) (Follows.append hback hrest) with
    hread | ⟨hseen, hend⟩
  · exact Or.inl ⟨back, hback, hread⟩
  · refine Or.inr ⟨hseen, fun hwordless => ?_, fun read behind hread => ?_⟩
    · rw [seen_of_wordless hwordless] at hseen
      exact absurd (hseen ▸ h) nofun
    · rw [hend read behind hread]
      exact scan_blanks hback false rest

/-- Behind a value where the place is lost the members come to no end outside of strings, unless one
more of them is taken for a word. -/
theorem scan_ne_of_lost {shape : Shape} {fuel : ℕ} {key behind after : Bytes} {item : Json}
    {read : List (Bytes × Json)} (hkey : ¬ (shape.member (Literal.string? key)).Wordless)
    (hscan : Json.scan true behind = some false)
    (hend : skipBlanks behind = 125 :: after ∧ read = [(key, item)] ∨
      ∃ next others, skipBlanks behind = 44 :: next ∧
        members fuel shape next = (others, some after) ∧ read = (key, item) :: others)
    (hwords : OneWord shape read) : Json.scan false after ≠ some false := by
  intro hafter
  rcases hend with ⟨hbrace, -⟩ | ⟨next, others, hcomma, hothers, rfl⟩
  · rw [scan_of_skipBlanks hbrace (by decide)] at hscan
    exact absurd (scan_complement hafter hscan) (by decide)
  · have hwordless : ∀ m ∈ others, (shape.member (Literal.string? m.1)).Wordless :=
      fun m hm => ((List.pairwise_cons.mp hwords).1 m hm).resolve_left hkey
    rw [scan_of_skipBlanks hcomma (by decide)] at hscan
    rw [← scan_members hwordless hothers] at hafter
    exact absurd (scan_complement hafter hscan) (by decide)

/-- **Members, where some of them are words.**  Either the reader keeps its place in all of them, or
it loses it in one, and then it comes to no end outside of strings, unless it takes a second member
for a word. -/
theorem LaidMembers.read {found : List (Bytes × Json)} {inner : Bytes} (h : LaidMembers found inner)
    {shape : Shape} (hshape : shape.HasPlainWords) {fuel : ℕ} (hfuel : inner.length + 1 < fuel)
    {rest : Bytes} (hrest : Json.scan false rest = some false) :
    members fuel shape (inner ++ 125 :: rest) = (seenMembers shape found, some rest) ∨
    ((∃ m ∈ seenMembers shape found, m.2 = .fault) ∧ ∀ read behind,
      members fuel shape (inner ++ 125 :: rest) = (read, some behind) → OneWord shape read →
        Json.scan false behind ≠ some false) := by
  induction fuel generalizing found inner with
  | zero => exact absurd hfuel (Nat.not_lt_zero _)
  | succ fuel ih =>
      cases h with
      | @last key label text item hkey hitem htext =>
          rw [List.length_append] at hfuel
          have hshort : text.length < fuel := by omega
          have hbrace : Follows (125 :: rest) := Or.inr (Or.inr (Or.inr rfl))
          rw [List.append_assoc]
          rcases htext.read hitem (hshape (Literal.string? key)) hshort hbrace with
            ⟨back, hback, hread⟩ | ⟨hseen, hword, hread⟩
          · have hend := skipBlanks_append_cons hback isBlank_brace.2 rest
            exact Or.inl ((members_label_iff hkey).mpr ⟨_, _, hread, Or.inl ⟨hend, rfl⟩⟩)
          · refine Or.inr ⟨⟨_, List.mem_cons_self, hseen⟩, fun read behind hmembers hwords => ?_⟩
            obtain ⟨item', behind', hitem', hend⟩ := (members_label_iff hkey).mp hmembers
            have hscan := hread _ _ hitem'
            rw [scan_cons (by decide), hrest] at hscan
            exact scan_ne_of_lost hword hscan hend hwords
      | @more key label text inner item others hkey hitem htext hothers =>
          rw [List.length_append, List.length_append, List.length_cons] at hfuel
          have hshort : text.length < fuel := by omega
          have hcomma : Follows (44 :: (inner ++ 125 :: rest)) := Or.inr (Or.inl rfl)
          rw [List.append_assoc, List.append_assoc, List.cons_append]
          rcases htext.read hitem (hshape (Literal.string? key)) hshort hcomma with
            ⟨back, hback, hread⟩ | ⟨hseen, hword, hread⟩
          · have hnext := skipBlanks_append_cons hback isBlank_comma (inner ++ 125 :: rest)
            rcases ih hothers (by omega) with hmembers | ⟨⟨m, hm, hfault⟩, hlater⟩
            · exact Or.inl ((members_label_iff hkey).mpr
                ⟨_, _, hread, Or.inr ⟨_, _, hnext, hmembers, rfl⟩⟩)
            · refine Or.inr ⟨⟨m, List.mem_cons_of_mem _ hm, hfault⟩,
                fun read behind hmembers hwords => ?_⟩
              obtain ⟨item', behind', hitem', hend⟩ := (members_label_iff hkey).mp hmembers
              rw [hread] at hitem'
              obtain ⟨-, hbehind⟩ := Prod.mk.inj hitem'
              rw [← Option.some.inj hbehind, hnext] at hend
              rcases hend with ⟨hbrace, -⟩ | ⟨next, others', hnext', hothers', rfl⟩
              · exact absurd (List.cons.inj hbrace).1 (by decide)
              · rw [← (List.cons.inj hnext').2] at hothers'
                exact hlater _ _ hothers' (List.pairwise_cons.mp hwords).2
          · refine Or.inr ⟨⟨_, List.mem_cons_self, hseen⟩, fun read behind hmembers hwords => ?_⟩
            obtain ⟨item', behind', hitem', hend⟩ := (members_label_iff hkey).mp hmembers
            have hscan := hread _ _ hitem'
            rw [scan_cons (by decide), hothers.scan, hrest] at hscan
            exact scan_ne_of_lost hword hscan hend hwords

end RollupWallet.Json
