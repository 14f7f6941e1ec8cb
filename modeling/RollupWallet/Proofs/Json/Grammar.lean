import Mathlib
import RollupWallet.Proofs.Json.Compact
import RollupWallet.Proofs.Json.Number

/-!
# The grammar of the format

The format is stated here apart from the reader: raw strings (`IsRaw`), numbers (`IsNumber`), and
values, items and members with blanks wherever these may stand (`Laid`, `LaidItems`, `LaidMembers`).
A tree carries the text of its arrays and objects, so that a derivation for a tree fixes every blank
inside its text.

The tokens that the reader cuts off the front of a text are those of the grammar, in both directions
(`IsRaw.split?` and `split?_cut`, `IsNumber.number?` and `number?_cut`).  A number ends where it is
not continued, so what comes next must be a blank, a comma or a closing mark (`Follows`).
-/

namespace RollupWallet.Json

open Text.Decimal (isDigit)

/-! ### The grammar -/

/-- Bytes that are all blanks. -/
def IsBlanks (bytes : Bytes) : Prop := ∀ byte ∈ bytes, isBlank byte = true

/-- What may stand between the quotation marks of a string. -/
inductive IsRaw : Bytes → Prop where
  | nil : IsRaw []
  | plain {byte : UInt8} {rest : Bytes} (hbyte : ¬ byte < 32 ∧ byte ≠ 34 ∧ byte ≠ 92)
      (hrest : IsRaw rest) : IsRaw (byte :: rest)
  | escape {letter byte : UInt8} {rest : Bytes}
      (hletter : Literal.ofShortEscape? letter = some byte) (hrest : IsRaw rest) :
      IsRaw (92 :: letter :: rest)
  | unicode {a b c d : UInt8} {unit : ℕ} {rest : Bytes}
      (hunit : Literal.unit? a b c d = some unit) (hrest : IsRaw rest) :
      IsRaw (92 :: 117 :: a :: b :: c :: d :: rest)

/-- One digit or more. -/
def IsDigits (bytes : Bytes) : Prop := bytes ≠ [] ∧ bytes.all isDigit = true

/-- The digits before the point, of which the first is zero only if it is alone. -/
def IsWhole (bytes : Bytes) : Prop := IsDigits bytes ∧ ∀ rest, bytes = 48 :: rest → rest = []

/-- Nothing, or a point and digits. -/
def IsFraction (bytes : Bytes) : Prop :=
  bytes = [] ∨ ∃ digits, IsDigits digits ∧ bytes = 46 :: digits

/-- Nothing, or the mark of an exponent, perhaps a sign, and digits. -/
def IsExponent (bytes : Bytes) : Prop :=
  bytes = [] ∨ ∃ mark sign digits, (mark = 101 ∨ mark = 69) ∧
    (sign = [] ∨ sign = [43] ∨ sign = [45]) ∧ IsDigits digits ∧ bytes = mark :: (sign ++ digits)

/-- The text of a number. -/
inductive IsNumber : Bytes → Prop where
  | of {sign whole fraction exponent : Bytes} (hsign : sign = [] ∨ sign = [45])
      (hwhole : IsWhole whole) (hfraction : IsFraction fraction)
      (hexponent : IsExponent exponent) : IsNumber (sign ++ (whole ++ (fraction ++ exponent)))

/-- The text of a value with blanks on both sides. -/
def Spaced (tree : Json) (text : Bytes) : Prop :=
  ∃ front back, IsBlanks front ∧ IsBlanks back ∧ text = front ++ (tree.text ++ back)

/-- The text of a key up to its colon. -/
def IsLabel (key text : Bytes) : Prop :=
  IsRaw key ∧ ∃ front gap, IsBlanks front ∧ IsBlanks gap ∧
    text = front ++ 34 :: (key ++ 34 :: (gap ++ [58]))

mutual

/-- A tree with a text of the format. -/
inductive Laid : Json → Prop where
  | null : Laid .null
  | bool (value : Bool) : Laid (.bool value)
  | number {token : Bytes} (htoken : IsNumber token) : Laid (.number token)
  | string {raw : Bytes} (hraw : IsRaw raw) : Laid (.string raw)
  | noItems {gap : Bytes} (hgap : IsBlanks gap) : Laid (.array (91 :: (gap ++ [93])) [])
  | array {inner : Bytes} {found : List Json} (hitems : LaidItems found inner) :
      Laid (.array (91 :: (inner ++ [93])) found)
  | noMembers {gap : Bytes} (hgap : IsBlanks gap) : Laid (.object (123 :: (gap ++ [125])) [])
  | object {inner : Bytes} {found : List (Bytes × Json)} (hmembers : LaidMembers found inner) :
      Laid (.object (123 :: (inner ++ [125])) found)

/-- The items of an array, one or more, and their text. -/
inductive LaidItems : List Json → Bytes → Prop where
  | last {item : Json} {text : Bytes} (hitem : Laid item) (htext : Spaced item text) :
      LaidItems [item] text
  | more {item : Json} {found : List Json} {text inner : Bytes} (hitem : Laid item)
      (htext : Spaced item text) (hitems : LaidItems found inner) :
      LaidItems (item :: found) (text ++ 44 :: inner)

/-- The members of an object, one or more, and their text. -/
inductive LaidMembers : List (Bytes × Json) → Bytes → Prop where
  | last {key label text : Bytes} {item : Json} (hkey : IsLabel key label) (hitem : Laid item)
      (htext : Spaced item text) : LaidMembers [(key, item)] (label ++ text)
  | more {key label text inner : Bytes} {item : Json} {found : List (Bytes × Json)}
      (hkey : IsLabel key label) (hitem : Laid item) (htext : Spaced item text)
      (hmembers : LaidMembers found inner) :
      LaidMembers ((key, item) :: found) (label ++ (text ++ 44 :: inner))

end

/-- What may follow a value: the end of the text, a blank, a comma or a closing mark. -/
def Follows : Bytes → Prop
  | [] => True
  | byte :: _ => isBlank byte = true ∨ byte = 44 ∨ byte = 93 ∨ byte = 125

/-- Whether a tree is an array or an object. -/
def isNested : Json → Bool
  | .array _ _ | .object _ _ => true
  | _ => false

/-! ### Parts of a text -/

mutual

/-- A text of the format is sound. -/
theorem Laid.isSound : ∀ {tree : Json}, Laid tree → tree.isSound = true
  | _, .null => rfl
  | _, .bool _ => rfl
  | _, .number _ => rfl
  | _, .string _ => rfl
  | _, .noItems _ => rfl
  | _, .array h => h.allSound
  | _, .noMembers _ => rfl
  | _, .object h => h.membersSound

theorem LaidItems.allSound : ∀ {found : List Json} {inner : Bytes}, LaidItems found inner →
    Json.allSound found = true
  | _, _, .last h _ => by rw [Json.allSound, h.isSound]; rfl
  | _, _, .more h _ hothers => by rw [Json.allSound, h.isSound, hothers.allSound]; rfl

theorem LaidMembers.membersSound : ∀ {found : List (Bytes × Json)} {inner : Bytes},
    LaidMembers found inner → Json.membersSound found = true
  | _, _, .last _ h _ => by rw [Json.membersSound, h.isSound]; rfl
  | _, _, .more _ h _ hothers => by rw [Json.membersSound, h.isSound, hothers.membersSound]; rfl

end

theorem LaidItems.laid {found : List Json} {inner : Bytes} (h : LaidItems found inner) :
    ∀ item ∈ found, Laid item := by
  induction found generalizing inner with
  | nil => exact nofun
  | cons item found ih =>
      cases h with
      | last hitem => exact List.forall_mem_cons.mpr ⟨hitem, nofun⟩
      | more hitem _ hothers => exact List.forall_mem_cons.mpr ⟨hitem, ih hothers⟩

theorem LaidMembers.laid {found : List (Bytes × Json)} {inner : Bytes}
    (h : LaidMembers found inner) : ∀ m ∈ found, IsRaw m.1 ∧ Laid m.2 := by
  induction found generalizing inner with
  | nil => exact nofun
  | cons m found ih =>
      cases h with
      | last hkey hitem => exact List.forall_mem_cons.mpr ⟨⟨hkey.1, hitem⟩, nofun⟩
      | more hkey hitem _ hothers =>
          exact List.forall_mem_cons.mpr ⟨⟨hkey.1, hitem⟩, ih hothers⟩

theorem Laid.items {own : Bytes} {found : List Json} (h : Laid (.array own found)) :
    ∀ item ∈ found, Laid item := by
  cases h with
  | noItems => exact nofun
  | array h => exact h.laid

theorem Laid.members {own : Bytes} {found : List (Bytes × Json)} (h : Laid (.object own found)) :
    ∀ m ∈ found, IsRaw m.1 ∧ Laid m.2 := by
  cases h with
  | noMembers => exact nofun
  | object h => exact h.laid

/-! ### Blanks -/

theorem IsBlanks.nil : IsBlanks [] := nofun

theorem IsBlanks.all {bytes : Bytes} (h : IsBlanks bytes) : bytes.all isBlank = true :=
  List.all_eq_true.mpr h

theorem skipBlanks_append {front : Bytes} (h : IsBlanks front) (text : Bytes) :
    skipBlanks (front ++ text) = skipBlanks text :=
  List.dropWhile_append_of_pos h

theorem skipBlanks_append_cons {front : Bytes} (h : IsBlanks front) {byte : UInt8}
    (hbyte : isBlank byte = false) (text : Bytes) :
    skipBlanks (front ++ byte :: text) = byte :: text := by
  rw [skipBlanks_append h, skipBlanks_cons hbyte]

theorem Follows.append {back : Bytes} (h : IsBlanks back) {rest : Bytes} (hrest : Follows rest) :
    Follows (back ++ rest) := by
  cases back with
  | nil => exact hrest
  | cons byte back => exact Or.inl (h byte List.mem_cons_self)

/-! ### Strings -/

/-- The end of a string is found. -/
theorem IsRaw.split? {raw : Bytes} (h : IsRaw raw) (rest : Bytes) :
    Literal.split? (raw ++ 34 :: rest) = some (raw, rest) := by
  induction h with
  | nil => rfl
  | plain hbyte _ ih =>
      obtain ⟨hcontrol, hquote, hback⟩ := hbyte
      rw [List.cons_append, Literal.split?, if_neg (not_or.mpr ⟨hcontrol, hback⟩), ih]
      · rfl
      all_goals
        intros
        contradiction
  | @escape letter byte rest' hletter _ ih =>
      rw [List.cons_append, List.cons_append, Literal.split?, hletter]
      · simp only [ih, Option.map_some]
      · intro _ _ _ _ _ hlong
        exact absurd hlong (Literal.ne_of_ofShortEscape? hletter)
  | unicode hunit _ ih =>
      simp only [List.cons_append]
      rw [Literal.split?, hunit]
      simp only [ih, Option.map_some]

/-- A string is cut off only where one may end. -/
theorem split?_cut {text raw rest : Bytes} (h : Literal.split? text = some (raw, rest)) :
    IsRaw raw ∧ text = raw ++ 34 :: rest := by
  induction text using Literal.split?.induct generalizing raw rest with
  | case1 => cases h
  | case2 behind =>
      cases h
      exact ⟨.nil, rfl⟩
  | case3 a b c d behind hunit =>
      rw [Literal.split?, hunit] at h
      cases h
  | case4 a b c d behind unit hunit ih =>
      rw [Literal.split?, hunit] at h
      obtain ⟨⟨raw', rest'⟩, hfound, heq⟩ := Option.map_eq_some_iff.mp h
      cases heq
      obtain ⟨hraw, rfl⟩ := ih hfound
      exact ⟨.unicode hunit hraw, rfl⟩
  | case5 letter behind hlong hletter =>
      rw [Literal.split?, hletter] at h
      · cases h
      · exact hlong
  | case6 letter behind hlong byte hletter ih =>
      rw [Literal.split?, hletter] at h
      · obtain ⟨⟨raw', rest'⟩, hfound, heq⟩ := Option.map_eq_some_iff.mp h
        cases heq
        obtain ⟨hraw, rfl⟩ := ih hfound
        exact ⟨.escape hletter hraw, rfl⟩
      · exact hlong
  | case7 byte behind hquote hlong hshort hbyte =>
      rw [Literal.split?, if_pos hbyte] at h
      · cases h
      · exact hquote
      · exact hlong
      · exact hshort
  | case8 byte behind hquote hlong hshort hbyte ih =>
      rw [Literal.split?, if_neg hbyte] at h
      · obtain ⟨⟨raw', rest'⟩, hfound, heq⟩ := Option.map_eq_some_iff.mp h
        cases heq
        obtain ⟨hraw, rfl⟩ := ih hfound
        obtain ⟨hcontrol, hback⟩ := not_or.mp hbyte
        exact ⟨.plain ⟨hcontrol, hquote, hback⟩ hraw, rfl⟩
      · exact hquote
      · exact hlong
      · exact hshort

/-! ### Numbers -/

/-- What does not go on with digits or a point. -/
def Stops (rest : Bytes) : Prop := ∀ byte ∈ rest.head?, isDigit byte = false ∧ byte ≠ 46

/-- What follows a value does not go on with the parts of a number. -/
theorem Follows.head {rest : Bytes} (h : Follows rest) :
    ∀ byte ∈ rest.head?, isDigit byte = false ∧ byte ≠ 46 ∧ byte ≠ 101 ∧ byte ≠ 69 := by
  intro byte hbyte
  cases rest with
  | nil => cases hbyte
  | cons first rest =>
      cases hbyte
      simp only [Follows, isBlank, Bool.or_eq_true, beq_iff_eq] at h
      rcases h with (((rfl | rfl) | rfl) | rfl) | rfl | rfl | rfl <;> decide

/-- Digits end where no digit follows. -/
theorem no_digits_of_head {rest : Bytes} (h : ∀ byte ∈ rest.head?, isDigit byte = false) :
    rest.takeWhile isDigit = [] ∧ rest.dropWhile isDigit = rest := by
  cases rest with
  | nil => exact ⟨rfl, rfl⟩
  | cons byte rest =>
      have hbyte : ¬ isDigit byte = true := by
        rw [h byte rfl]
        exact Bool.false_ne_true
      exact ⟨List.takeWhile_cons_of_neg hbyte, List.dropWhile_cons_of_neg hbyte⟩

theorem digits?_of_stops {digits rest : Bytes} (hdigits : IsDigits digits)
    (hrest : ∀ byte ∈ rest.head?, isDigit byte = false) :
    digits? (digits ++ rest) = some (digits, rest) := by
  have hend := no_digits_of_head hrest
  have hall := List.all_eq_true.mp hdigits.2
  rw [digits?, List.takeWhile_append_of_pos hall, List.dropWhile_append_of_pos hall, hend.1,
    hend.2, List.append_nil]
  cases digits with
  | nil => exact absurd rfl hdigits.1
  | cons byte digits => rfl

theorem IsDigits.exists_cons {digits : Bytes} (h : IsDigits digits) :
    ∃ first others, digits = first :: others ∧ isDigit first = true := by
  obtain ⟨first, others, rfl⟩ := List.exists_cons_of_ne_nil h.1
  exact ⟨first, others, rfl, List.all_eq_true.mp h.2 first List.mem_cons_self⟩

theorem fraction?_of_stops {fraction rest : Bytes} (h : IsFraction fraction) (hrest : Stops rest) :
    fraction? (fraction ++ rest) = some (fraction, rest) := by
  rcases h with rfl | ⟨digits, hdigits, rfl⟩
  · cases rest with
    | nil => rfl
    | cons byte rest =>
        have hbyte := (hrest byte rfl).2
        rw [List.nil_append, fraction?]
        rintro others ⟨⟩
        exact hbyte rfl
  · have hread := digits?_of_stops hdigits fun byte hbyte => (hrest byte hbyte).1
    rw [List.cons_append, fraction?, hread]
    rfl

theorem exponent?_of_follows {exponent rest : Bytes} (h : IsExponent exponent)
    (hrest : Follows rest) : exponent? (exponent ++ rest) = some (exponent, rest) := by
  have hhead := hrest.head
  rcases h with rfl | ⟨mark, sign, digits, hmark, hsign, hdigits, rfl⟩
  · cases rest with
    | nil => rfl
    | cons byte rest =>
        obtain ⟨-, -, hlower, hupper⟩ := hhead byte rfl
        rw [List.nil_append, exponent?.eq_def]
        exact if_neg (not_or.mpr ⟨hlower, hupper⟩)
  · have hread := digits?_of_stops hdigits fun byte hbyte => (hhead byte hbyte).1
    obtain ⟨first, others, rfl, hfirst⟩ := hdigits.exists_cons
    rw [List.cons_append, exponent?.eq_def]
    simp only [if_pos hmark, List.append_assoc]
    rcases hsign with rfl | rfl | rfl
    · -- a digit is no sign
      have hplus : ¬ (first = 43 ∨ first = 45) := by
        rintro (rfl | rfl) <;> exact absurd hfirst (by decide)
      rw [List.nil_append, List.cons_append] at *
      simp only [if_neg hplus, hread, Option.map_some, List.nil_append]
    · simp only [List.singleton_append, true_or, if_true, hread, Option.map_some]
    · simp only [List.singleton_append, or_true, if_true, hread, Option.map_some]

/-- What stands behind the digits before the point goes on with neither digits nor, behind the
fraction, a point. -/
theorem IsExponent.stops {exponent rest : Bytes} (h : IsExponent exponent) (hrest : Follows rest) :
    Stops (exponent ++ rest) := by
  rcases h with rfl | ⟨mark, sign, digits, hmark, -, -, rfl⟩
  · exact fun byte hbyte => ⟨(hrest.head byte hbyte).1, (hrest.head byte hbyte).2.1⟩
  · rintro byte ⟨⟩
    rcases hmark with rfl | rfl <;> decide

theorem IsFraction.head {fraction rest : Bytes} (h : IsFraction fraction) (hrest : Stops rest) :
    ∀ byte ∈ (fraction ++ rest).head?, isDigit byte = false := by
  rcases h with rfl | ⟨digits, -, rfl⟩
  · exact fun byte hbyte => (hrest byte hbyte).1
  · rintro byte ⟨⟩
    rfl

theorem whole?_of_stops {whole rest : Bytes} (h : IsWhole whole)
    (hrest : ∀ byte ∈ rest.head?, isDigit byte = false) :
    whole? (whole ++ rest) = some (whole, rest) := by
  unfold whole?
  rw [digits?_of_stops h.1 hrest]
  split
  · next heq =>
    have hlead := h.2 _ (congrArg Prod.fst (Option.some.inj heq))
    exact absurd hlead (List.cons_ne_nil _ _)
  · rfl

/-- **A number is cut off where it is not continued.** -/
theorem IsNumber.number? {token rest : Bytes} (h : IsNumber token) (hrest : Follows rest) :
    number? (token ++ rest) = some (token, rest) := by
  obtain @⟨sign, whole, fraction, exponent, hsign, hwhole, hfraction, hexponent⟩ := h
  have hstops := hexponent.stops hrest
  have hmagnitude : magnitude? (whole ++ (fraction ++ exponent) ++ rest) =
      some (whole ++ (fraction ++ exponent), rest) := by
    simp only [magnitude?, List.append_assoc, whole?_of_stops hwhole (hfraction.head hstops),
      fraction?_of_stops hfraction hstops, exponent?_of_follows hexponent hrest,
      Option.bind_eq_bind, Option.bind_some]
  obtain ⟨first, others, rfl, hfirst⟩ := hwhole.1.exists_cons
  rcases hsign with rfl | rfl
  · have hminus : first ≠ 45 := by
      rintro rfl
      exact absurd hfirst (by decide)
    unfold Json.number?
    split
    · next heq => exact absurd (List.cons.inj heq).1 hminus
    · exact hmagnitude
  · rw [List.append_assoc, List.singleton_append, Json.number?, hmagnitude]
    rfl

/-- A number starts with a digit or a minus sign. -/
theorem IsNumber.exists_cons {token : Bytes} (h : IsNumber token) :
    ∃ byte others, token = byte :: others ∧ (isDigit byte = true ∨ byte = 45) := by
  obtain @⟨sign, whole, fraction, exponent, hsign, hwhole, -, -⟩ := h
  obtain ⟨first, others, rfl, hfirst⟩ := hwhole.1.exists_cons
  rcases hsign with rfl | rfl
  · exact ⟨first, _, rfl, Or.inl hfirst⟩
  · exact ⟨45, _, rfl, Or.inr rfl⟩

/-! Conversely, only what the grammar allows is cut off. -/

theorem digits?_cut {text digits rest : Bytes} (h : digits? text = some (digits, rest)) :
    IsDigits digits ∧ text = digits ++ rest := by
  have hdigits := digits?_eq_some h
  refine ⟨hdigits, ?_⟩
  unfold digits? at h
  split at h
  · cases h
  · obtain ⟨rfl, rfl⟩ := Prod.mk.inj (Option.some.inj h)
    exact List.takeWhile_append_dropWhile.symm

theorem whole?_cut {text whole rest : Bytes} (h : whole? text = some (whole, rest)) :
    IsWhole whole ∧ text = whole ++ rest := by
  unfold whole? at h
  split at h
  · cases h
  · next hlead =>
    obtain ⟨hdigits, htext⟩ := digits?_cut h
    refine ⟨⟨hdigits, fun others hothers => ?_⟩, htext⟩
    cases others with
    | nil => rfl
    | cons byte others => exact absurd (hothers ▸ h) (hlead _ _ _)

theorem fraction?_cut {text fraction rest : Bytes} (h : fraction? text = some (fraction, rest)) :
    IsFraction fraction ∧ text = fraction ++ rest := by
  unfold fraction? at h
  split at h
  · obtain ⟨⟨digits, rest'⟩, hfound, heq⟩ := Option.map_eq_some_iff.mp h
    cases heq
    obtain ⟨hdigits, rfl⟩ := digits?_cut hfound
    exact ⟨Or.inr ⟨digits, hdigits, rfl⟩, rfl⟩
  · cases h
    exact ⟨Or.inl rfl, rfl⟩

theorem exponent?_cut {text exponent rest : Bytes} (h : exponent? text = some (exponent, rest)) :
    IsExponent exponent ∧ text = exponent ++ rest := by
  unfold exponent? at h
  split at h
  · cases h
    exact ⟨Or.inl rfl, rfl⟩
  · next mark tail =>
    split_ifs at h with hmark
    · split at h
      · cases h
      · next sign tail =>
        split_ifs at h with hsign
        · obtain ⟨⟨digits, rest'⟩, hfound, heq⟩ := Option.map_eq_some_iff.mp h
          cases heq
          obtain ⟨hdigits, rfl⟩ := digits?_cut hfound
          have hsign' : [sign] = [] ∨ [sign] = [43] ∨ [sign] = [45] := by
            rcases hsign with rfl | rfl
            · exact Or.inr (Or.inl rfl)
            · exact Or.inr (Or.inr rfl)
          exact ⟨Or.inr ⟨mark, [sign], digits, hmark, hsign', hdigits, rfl⟩, rfl⟩
        · obtain ⟨⟨digits, rest'⟩, hfound, heq⟩ := Option.map_eq_some_iff.mp h
          cases heq
          obtain ⟨hdigits, htext⟩ := digits?_cut hfound
          rw [htext]
          exact ⟨Or.inr ⟨mark, [], digits, hmark, Or.inl rfl, hdigits, rfl⟩, rfl⟩
    · cases h
      exact ⟨Or.inl rfl, rfl⟩

/-- **Only numbers are cut off.** -/
theorem number?_cut {text token rest : Bytes} (h : number? text = some (token, rest)) :
    IsNumber token ∧ text = token ++ rest := by
  have hmagnitude {text token rest : Bytes} (h : magnitude? text = some (token, rest)) :
      ∃ whole fraction exponent, IsWhole whole ∧ IsFraction fraction ∧ IsExponent exponent ∧
        token = whole ++ (fraction ++ exponent) ∧ text = token ++ rest := by
    simp only [magnitude?, Option.bind_eq_bind, Option.bind_eq_some_iff, Prod.exists] at h
    obtain ⟨whole, _, hwhole, fraction, _, hfraction, exponent, _, hexponent, heq⟩ := h
    cases heq
    obtain ⟨iswhole, rfl⟩ := whole?_cut hwhole
    obtain ⟨isfraction, rfl⟩ := fraction?_cut hfraction
    obtain ⟨isexponent, rfl⟩ := exponent?_cut hexponent
    refine ⟨whole, fraction, exponent, iswhole, isfraction, isexponent, ?_, ?_⟩
    · rw [List.append_assoc]
    · simp only [List.append_assoc]
  unfold Json.number? at h
  split at h
  · obtain ⟨⟨token', rest'⟩, hfound, heq⟩ := Option.map_eq_some_iff.mp h
    cases heq
    obtain ⟨whole, fraction, exponent, hwhole, hfraction, hexponent, rfl, rfl⟩ := hmagnitude hfound
    exact ⟨.of (Or.inr rfl) hwhole hfraction hexponent, rfl⟩
  · obtain ⟨whole, fraction, exponent, hwhole, hfraction, hexponent, rfl, rfl⟩ := hmagnitude h
    exact ⟨.of (Or.inl rfl) hwhole hfraction hexponent, rfl⟩

end RollupWallet.Json
