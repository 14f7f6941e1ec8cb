import Mathlib
import RollupWallet.Json.Parser
import RollupWallet.Proofs.Json.Literal
import RollupWallet.Proofs.Text.Decimal

/-!
# Compact trees are read back

Codecs write trees of one kind (`Compact`): words, integers, strings and objects, without blanks
between the tokens.  The text of such a tree is read as that tree, whatever shape is expected, and
the rest begins right behind it (`Compact.reads`).

The induction is on the tree.  Two things are said of every text beside it.

* **What follows.**  A number ends where its digits end, so what comes next must not continue it.
  Inside an object or an array that is a comma or the closing mark (`Delimits`).
* **Fuel.**  The reader goes one level down with one less, and a level takes at least one byte of
  the text.  So fuel above the length of the text is enough.

Arrays are apart from this: where a word is expected, what follows its last byte has a rule of its
own.  An array is read back where any value may stand (`value_ofItems`).
-/

namespace RollupWallet.Json

/-- What follows a value inside an object or an array, or the end of the text. -/
def Delimits : Bytes → Prop
  | [] => True
  | byte :: _ => byte = 44 ∨ byte = 93 ∨ byte = 125

/-- Trees as codecs write them. -/
inductive Compact : Json → Prop where
  | null : Compact .null
  | number (n : ℤ) : Compact (.number (Text.Decimal.integer n))
  | string (s : String) : Compact (.string (Literal.encode (Text.utf8 s)))
  | object (members : List (Bytes × Json))
      (hkeys : ∀ m ∈ members, ∃ name, m.1 = Literal.encode (Text.utf8 name))
      (hvalues : ∀ m ∈ members, Compact m.2) : Compact (ofMembers members)

/-- The text of a tree is read as that tree. -/
def Reads (tree : Json) : Prop :=
  ∀ (fuel : ℕ) (shape : Shape) (rest : Bytes), tree.text.length < fuel → Delimits rest →
    value fuel shape (tree.text ++ rest) = (tree, some rest)

/-! ### Tokens -/

theorem isBlank_quote : isBlank 34 = false := by decide

theorem isBlank_comma : isBlank 44 = false := by decide

theorem isBlank_colon : isBlank 58 = false := by decide

theorem isBlank_brace : isBlank 123 = false ∧ isBlank 125 = false := by decide

theorem isBlank_bracket : isBlank 91 = false ∧ isBlank 93 = false := by decide

theorem skipBlanks_cons {byte : UInt8} {text : Bytes} (h : isBlank byte = false) :
    skipBlanks (byte :: text) = byte :: text := by
  rw [skipBlanks, List.dropWhile_cons, h]
  rfl

theorem before_append (text rest : Bytes) : before (text ++ rest) (some rest) = text := by
  rw [before, List.length_append, Nat.add_sub_cancel, List.take_left]

/-- A token that opens neither an array nor an object is read by itself. -/
theorem value_eq_scalar {byte : UInt8} {text : Bytes} {fuel : ℕ} {shape : Shape} (hfuel : 0 < fuel)
    (hblank : isBlank byte = false) (harray : byte ≠ 91) (hobject : byte ≠ 123) :
    value fuel shape (byte :: text) = scalar (byte :: text) := by
  obtain ⟨fuel, rfl⟩ := Nat.exists_eq_succ_of_ne_zero hfuel.ne'
  rw [value, skipBlanks_cons hblank]
  split
  · next heq => exact absurd (List.cons.inj heq).1 harray
  · next heq => exact absurd (List.cons.inj heq).1 hobject
  · rfl

theorem Reads.null : Reads .null := by
  intro fuel shape rest hfuel _
  exact value_eq_scalar (Nat.zero_lt_of_lt hfuel) (by decide) (by decide) (by decide)

theorem Reads.string (bytes : Bytes) : Reads (.string (Literal.encode bytes)) := by
  intro fuel shape rest hfuel _
  have htext : (Json.string (Literal.encode bytes)).text ++ rest =
      34 :: (Literal.encode bytes ++ 34 :: rest) := by
    simp [Json.text]
  rw [htext, value_eq_scalar (Nat.zero_lt_of_lt hfuel) (by decide) (by decide) (by decide)]
  unfold scalar
  simp only [Literal.split?_encode]

/-! ### Numbers -/

theorem digits?_append {digits rest : Bytes} (hne : digits ≠ [])
    (hdigits : digits.all Text.Decimal.isDigit = true) (hrest : Delimits rest) :
    digits? (digits ++ rest) = some (digits, rest) := by
  have hend : rest.takeWhile Text.Decimal.isDigit = [] ∧
      rest.dropWhile Text.Decimal.isDigit = rest := by
    cases rest with
    | nil => exact ⟨rfl, rfl⟩
    | cons byte rest =>
        rcases hrest with rfl | rfl | rfl
        · exact ⟨rfl, rfl⟩
        · exact ⟨rfl, rfl⟩
        · exact ⟨rfl, rfl⟩
  have hall := List.all_eq_true.mp hdigits
  rw [digits?, List.takeWhile_append_of_pos hall, List.dropWhile_append_of_pos hall, hend.1,
    hend.2, List.append_nil]
  cases digits with
  | nil => exact absurd rfl hne
  | cons byte digits => rfl

theorem fraction?_of_delimits {rest : Bytes} (hrest : Delimits rest) :
    fraction? rest = some ([], rest) := by
  cases rest with
  | nil => rfl
  | cons byte rest =>
      rcases hrest with rfl | rfl | rfl
      · rfl
      · rfl
      · rfl

theorem exponent?_of_delimits {rest : Bytes} (hrest : Delimits rest) :
    exponent? rest = some ([], rest) := by
  cases rest with
  | nil => rfl
  | cons byte rest =>
      rcases hrest with rfl | rfl | rfl
      · rfl
      · rfl
      · rfl

theorem magnitude?_natural (n : ℕ) {rest : Bytes} (hrest : Delimits rest) :
    magnitude? (Text.Decimal.natural n ++ rest) = some (Text.Decimal.natural n, rest) := by
  have hdigits := digits?_append (Text.Decimal.natural_ne_nil n)
    (Text.Decimal.all_isDigit_natural n) hrest
  have hwhole : whole? (Text.Decimal.natural n ++ rest) = some (Text.Decimal.natural n, rest) := by
    unfold whole?
    rw [hdigits]
    split
    · next heq =>
      have hlead := Text.Decimal.natural_leading_zero (congrArg Prod.fst (Option.some.inj heq))
      exact absurd hlead (List.cons_ne_nil _ _)
    · rfl
  unfold magnitude?
  rw [hwhole]
  show (fraction? rest).bind _ = _
  rw [fraction?_of_delimits hrest]
  show (exponent? rest).bind _ = _
  rw [exponent?_of_delimits hrest]
  show some (Text.Decimal.natural n ++ [] ++ [], rest) = _
  rw [List.append_nil, List.append_nil]

/-- An integer starts with a digit or a minus sign. -/
theorem integer_eq_cons (n : ℤ) : ∃ byte text, Text.Decimal.integer n = byte :: text ∧
    (Text.Decimal.isDigit byte = true ∨ byte = 45) := by
  cases n with
  | ofNat n =>
      obtain ⟨byte, text, heq⟩ := List.exists_cons_of_ne_nil (Text.Decimal.natural_ne_nil n)
      refine ⟨byte, text, heq, Or.inl ?_⟩
      exact Text.Decimal.isDigit_of_mem_natural (heq ▸ List.mem_cons_self)
  | negSucc n => exact ⟨45, _, Text.Decimal.integer_negSucc n, Or.inr rfl⟩

section First

variable {byte : UInt8} (hbyte : Text.Decimal.isDigit byte = true ∨ byte = 45)

include hbyte

/-- What starts a number starts no other token. -/
theorem ne_of_starts_number {other : UInt8}
    (hother : Text.Decimal.isDigit other = false ∧ other ≠ 45) : byte ≠ other := by
  rintro rfl
  rcases hbyte with h | h
  · exact absurd (hother.1.symm.trans h) (by decide)
  · exact hother.2 h

theorem isBlank_of_starts_number : isBlank byte = false := by
  have hother : ∀ other : UInt8, Text.Decimal.isDigit other = false ∧ other ≠ 45 → byte ≠ other :=
    fun _ => ne_of_starts_number hbyte
  simp only [isBlank, Bool.or_eq_false_iff, beq_eq_false_iff_ne]
  exact ⟨⟨⟨hother 32 (by decide), hother 9 (by decide)⟩, hother 10 (by decide)⟩,
    hother 13 (by decide)⟩

end First

theorem number?_integer (n : ℤ) {rest : Bytes} (hrest : Delimits rest) :
    number? (Text.Decimal.integer n ++ rest) = some (Text.Decimal.integer n, rest) := by
  cases n with
  | ofNat n =>
      rw [Text.Decimal.integer_ofNat]
      unfold number?
      split
      · next rest' heq =>
        have hmem : (45 : UInt8) ∈ Text.Decimal.natural n := by
          obtain ⟨byte, text, hcons⟩ := List.exists_cons_of_ne_nil (Text.Decimal.natural_ne_nil n)
          rw [hcons] at heq ⊢
          rw [(List.cons.inj heq).1]
          exact List.mem_cons_self
        exact absurd (Text.Decimal.isDigit_of_mem_natural hmem) (by decide)
      · exact magnitude?_natural n hrest
  | negSucc n =>
      rw [Text.Decimal.integer_negSucc]
      show (magnitude? (Text.Decimal.natural (n + 1) ++ rest)).map _ = _
      rw [magnitude?_natural _ hrest]
      rfl

theorem Reads.number (n : ℤ) : Reads (.number (Text.Decimal.integer n)) := by
  intro fuel shape rest hfuel hrest
  have hnumber := number?_integer n hrest
  obtain ⟨byte, text, heq, hbyte⟩ := integer_eq_cons n
  have hother : ∀ other : UInt8, Text.Decimal.isDigit other = false ∧ other ≠ 45 → byte ≠ other :=
    fun _ => ne_of_starts_number hbyte
  have hblank : isBlank byte = false := isBlank_of_starts_number hbyte
  show value fuel shape (Text.Decimal.integer n ++ rest) = _
  rw [heq, List.cons_append] at hnumber ⊢
  rw [value_eq_scalar (Nat.zero_lt_of_lt hfuel) hblank (hother 91 (by decide))
    (hother 123 (by decide))]
  unfold scalar
  split
  · next h => exact absurd (List.cons.inj h).1 (hother 110 (by decide))
  · next h => exact absurd (List.cons.inj h).1 (hother 116 (by decide))
  · next h => exact absurd (List.cons.inj h).1 (hother 102 (by decide))
  · next h => exact absurd (List.cons.inj h).1 (hother 34 (by decide))
  · rw [hnumber]

/-! ### Objects -/

/-- The text of a member. -/
def memberText (m : Bytes × Json) : Bytes := [34] ++ m.1 ++ [34, 58] ++ m.2.text

/-- The text of members with commas between them. -/
def bodyText (members : List (Bytes × Json)) : Bytes := [44].intercalate (members.map memberText)

theorem bodyText_singleton (m : Bytes × Json) : bodyText [m] = memberText m := by
  simp [bodyText, List.intercalate]

theorem bodyText_cons_cons (m m' : Bytes × Json) (ms : List (Bytes × Json)) :
    bodyText (m :: m' :: ms) = memberText m ++ 44 :: bodyText (m' :: ms) := by
  simp [bodyText, List.intercalate]

theorem text_ofMembers (ms : List (Bytes × Json)) :
    (ofMembers ms).text = 123 :: (bodyText ms ++ [125]) := rfl

theorem length_memberText (m : Bytes × Json) :
    (memberText m).length = m.1.length + m.2.text.length + 3 := by
  simp only [memberText, List.length_append, List.length_cons, List.length_nil]
  omega

theorem memberText_append (key : Bytes) (tree : Json) (tail : Bytes) :
    memberText (key, tree) ++ tail = 34 :: (key ++ 34 :: 58 :: (tree.text ++ tail)) := by
  simp [memberText]

section Member

variable {m : Bytes × Json} {fuel : ℕ} {shape : Shape}

/-- The last member of an object is read. -/
theorem members_last (hkey : ∃ name, m.1 = Literal.encode name) (hvalue : Reads m.2)
    (hfuel : m.2.text.length < fuel) (rest : Bytes) :
    members (fuel + 1) shape (memberText m ++ 125 :: rest) = ([m], some rest) := by
  obtain ⟨key, tree⟩ := m
  obtain ⟨name, rfl⟩ := hkey
  have hread := hvalue fuel (shape.member (Literal.string? (Literal.encode name))) (125 :: rest)
    hfuel (Or.inr (Or.inr rfl))
  rw [memberText_append, members, skipBlanks_cons isBlank_quote]
  simp only [Literal.split?_encode, skipBlanks_cons isBlank_colon, hread,
    skipBlanks_cons isBlank_brace.2]

/-- A member before a comma is read, and so are those behind the comma. -/
theorem members_more (hkey : ∃ name, m.1 = Literal.encode name) (hvalue : Reads m.2)
    (hfuel : m.2.text.length < fuel) (rest : Bytes) :
    members (fuel + 1) shape (memberText m ++ 44 :: rest) =
      (m :: (members fuel shape rest).1, (members fuel shape rest).2) := by
  obtain ⟨key, tree⟩ := m
  obtain ⟨name, rfl⟩ := hkey
  have hread := hvalue fuel (shape.member (Literal.string? (Literal.encode name))) (44 :: rest)
    hfuel (Or.inl rfl)
  rw [memberText_append, members, skipBlanks_cons isBlank_quote]
  simp only [Literal.split?_encode, skipBlanks_cons isBlank_colon, hread,
    skipBlanks_cons isBlank_comma]

end Member

/-- **The members of an object are read up to its closing brace.** -/
theorem members_bodyText (ms : List (Bytes × Json)) (hne : ms ≠ [])
    (hkeys : ∀ m ∈ ms, ∃ name, m.1 = Literal.encode name) (hvalues : ∀ m ∈ ms, Reads m.2) :
    ∀ (fuel : ℕ) (shape : Shape) (rest : Bytes), (bodyText ms).length < fuel →
      members fuel shape (bodyText ms ++ 125 :: rest) = (ms, some rest) := by
  induction ms with
  | nil => exact absurd rfl hne
  | cons m ms ih =>
      intro fuel shape rest hfuel
      have hkey := hkeys m List.mem_cons_self
      have hvalue := hvalues m List.mem_cons_self
      have hlength := length_memberText m
      obtain ⟨fuel, rfl⟩ := Nat.exists_eq_succ_of_ne_zero (Nat.ne_zero_of_lt hfuel)
      -- the last member is followed by the brace, every other one by a comma
      cases ms with
      | nil =>
          rw [bodyText_singleton] at hfuel ⊢
          exact members_last hkey hvalue (by omega) rest
      | cons m' ms =>
          rw [bodyText_cons_cons] at hfuel ⊢
          rw [List.length_append, List.length_cons] at hfuel
          have hothers := ih (List.cons_ne_nil _ _)
            (fun m hm => hkeys m (List.mem_cons_of_mem _ hm))
            (fun m hm => hvalues m (List.mem_cons_of_mem _ hm)) fuel shape rest (by omega)
          rw [List.append_assoc, List.cons_append, members_more hkey hvalue (by omega), hothers]

/-- An object whose values are read is read. -/
theorem Reads.object {ms : List (Bytes × Json)}
    (hkeys : ∀ m ∈ ms, ∃ name, m.1 = Literal.encode name) (hvalues : ∀ m ∈ ms, Reads m.2) :
    Reads (ofMembers ms) := by
  intro fuel shape rest hfuel _
  rw [text_ofMembers, List.length_cons, List.length_append] at hfuel
  obtain ⟨fuel, rfl⟩ := Nat.exists_eq_succ_of_ne_zero (Nat.ne_zero_of_lt hfuel)
  have hbefore := before_append (ofMembers ms).text rest
  have htext : (ofMembers ms).text ++ rest = 123 :: (bodyText ms ++ 125 :: rest) := by
    rw [text_ofMembers, List.cons_append, List.append_assoc]
    rfl
  rw [htext] at hbefore ⊢
  rw [value, skipBlanks_cons isBlank_brace.1]
  -- an object without members is recognized by its closing brace
  cases ms with
  | nil =>
      show (Json.object (before (123 :: 125 :: rest) (some rest)) [], some rest) = _
      exact congrArg (fun text => (Json.object text [], some rest)) hbefore
  | cons m ms =>
      have hread := members_bodyText (m :: ms) (List.cons_ne_nil _ _) hkeys hvalues fuel shape rest
        (by omega)
      have hfirst : ∃ text, bodyText (m :: ms) ++ 125 :: rest = 34 :: text := by
        cases ms with
        | nil => exact ⟨_, by rw [bodyText_singleton]; rfl⟩
        | cons m' ms => exact ⟨_, by rw [bodyText_cons_cons]; rfl⟩
      obtain ⟨text, hfirst⟩ := hfirst
      rw [hfirst] at hread hbefore ⊢
      simp only [skipBlanks_cons isBlank_quote, hread, hbefore]
      rfl

/-- **The text of a compact tree is read as that tree.** -/
theorem Compact.reads {tree : Json} (h : Compact tree) : Reads tree := by
  induction h with
  | null => exact Reads.null
  | number n => exact Reads.number n
  | string s => exact Reads.string (Text.utf8 s)
  | object members hkeys _ ih =>
      refine Reads.object (fun m hm => ?_) ih
      obtain ⟨name, hname⟩ := hkeys m hm
      exact ⟨Text.utf8 name, hname⟩

/-- A whole text that is a compact tree is read with nothing left over. -/
theorem Compact.parse_text {tree : Json} (h : Compact tree) (shape : Shape) :
    parse shape tree.text = (tree, some []) := by
  have hread := h.reads (2 * tree.text.length + 2) shape [] (by omega) trivial
  rw [List.append_nil] at hread
  exact hread

/-! ### Arrays -/

/-- The text of items with commas between them. -/
def listText (found : List Json) : Bytes := [44].intercalate (found.map text)

theorem listText_singleton (item : Json) : listText [item] = item.text := by
  simp [listText, List.intercalate]

theorem listText_cons_cons (item item' : Json) (found : List Json) :
    listText (item :: item' :: found) = item.text ++ 44 :: listText (item' :: found) := by
  simp [listText, List.intercalate]

theorem text_ofItems (found : List Json) :
    (ofItems found).text = 91 :: (listText found ++ [93]) := rfl

/-- The text of a tree begins neither with a blank nor with the end of an array. -/
def Begins (tree : Json) : Prop :=
  ∃ byte text, tree.text = byte :: text ∧ isBlank byte = false ∧ byte ≠ 93

theorem Compact.begins {tree : Json} (h : Compact tree) : Begins tree := by
  cases h with
  | null => exact ⟨110, _, rfl, by decide, by decide⟩
  | number n =>
      obtain ⟨byte, text, heq, hbyte⟩ := integer_eq_cons n
      exact ⟨byte, text, heq, isBlank_of_starts_number hbyte,
        ne_of_starts_number hbyte (by decide)⟩
  | string s => exact ⟨34, _, rfl, by decide, by decide⟩
  | object members => exact ⟨123, _, rfl, by decide, by decide⟩

theorem listText_begins {item : Json} (h : Begins item) (found : List Json) :
    ∃ byte text, listText (item :: found) = byte :: text ∧ isBlank byte = false ∧ byte ≠ 93 := by
  obtain ⟨byte, text, htext, hbyte⟩ := h
  cases found with
  | nil => exact ⟨byte, text, by rw [listText_singleton, htext], hbyte⟩
  | cons item' found =>
      exact ⟨byte, _, by rw [listText_cons_cons, htext, List.cons_append], hbyte⟩

/-- **The items of an array are read up to its closing bracket.** -/
theorem items_listText (found : List Json) (hne : found ≠ [])
    (hcompact : ∀ item ∈ found, Compact item) :
    ∀ (fuel : ℕ) (rest : Bytes), (listText found).length + 1 < fuel →
      items fuel .any (listText found ++ 93 :: rest) = (found, some rest) := by
  induction found with
  | nil => exact absurd rfl hne
  | cons item found ih =>
      intro fuel rest hfuel
      have hitem := (hcompact item List.mem_cons_self).reads
      obtain ⟨fuel, rfl⟩ := Nat.exists_eq_succ_of_ne_zero (Nat.ne_zero_of_lt hfuel)
      -- the last item is followed by the bracket, every other one by a comma
      cases found with
      | nil =>
          rw [listText_singleton] at hfuel ⊢
          have hvalue := hitem fuel .any (93 :: rest) (by omega) (Or.inr (Or.inl rfl))
          rw [items]
          simp only [Shape.item, hvalue, skipBlanks_cons isBlank_bracket.2]
      | cons item' found =>
          rw [listText_cons_cons] at hfuel ⊢
          rw [List.length_append, List.length_cons] at hfuel
          have hothers := ih (List.cons_ne_nil _ _)
            (fun item hitem => hcompact item (List.mem_cons_of_mem _ hitem)) fuel rest (by omega)
          have hnext := (hcompact item' (List.mem_cons_of_mem _ List.mem_cons_self)).begins
          obtain ⟨byte, text, htext, hblank, hbracket⟩ := listText_begins hnext found
          have hvalue := hitem fuel .any (44 :: (listText (item' :: found) ++ 93 :: rest))
            (by omega) (Or.inl rfl)
          rw [htext, List.cons_append] at hothers hvalue
          rw [List.append_assoc, List.cons_append, htext, List.cons_append, items]
          simp only [Shape.item, Shape.afterItem, Shape.isFull, hvalue,
            skipBlanks_cons isBlank_comma, skipBlanks_cons hblank]
          split
          · next heq => exact absurd (List.cons.inj heq).1 hbracket
          · simp only [Bool.false_eq_true, if_false, hothers]

/-- **An array of compact trees is read where any value may stand.** -/
theorem value_ofItems {found : List Json} (hcompact : ∀ item ∈ found, Compact item) {fuel : ℕ}
    (hfuel : (ofItems found).text.length < fuel) (rest : Bytes) :
    value fuel .any ((ofItems found).text ++ rest) = (ofItems found, some rest) := by
  rw [text_ofItems, List.length_cons, List.length_append] at hfuel
  obtain ⟨fuel, rfl⟩ := Nat.exists_eq_succ_of_ne_zero (Nat.ne_zero_of_lt hfuel)
  have hbefore := before_append (ofItems found).text rest
  have htext : (ofItems found).text ++ rest = 91 :: (listText found ++ 93 :: rest) := by
    rw [text_ofItems, List.cons_append, List.append_assoc]
    rfl
  rw [htext] at hbefore ⊢
  rw [value, skipBlanks_cons isBlank_bracket.1]
  -- an array without items is recognized by its closing bracket
  cases found with
  | nil =>
      show (Json.array (before (91 :: 93 :: rest) (some rest)) [], some rest) = _
      exact congrArg (fun text => (Json.array text [], some rest)) hbefore
  | cons item found =>
      have hread := items_listText (item :: found) (List.cons_ne_nil _ _) hcompact fuel rest
        (by simp only [List.length_singleton] at hfuel; omega)
      obtain ⟨byte, text, hfirst, hblank, hbracket⟩ :=
        listText_begins (hcompact item List.mem_cons_self).begins found
      rw [hfirst, List.cons_append] at hread hbefore ⊢
      simp only [skipBlanks_cons hblank, hread, hbefore]
      split
      · next heq => exact absurd (List.cons.inj heq).1 hbracket
      · rfl

theorem parse_ofItems {found : List Json} (hcompact : ∀ item ∈ found, Compact item) :
    parse .any (ofItems found).text = (ofItems found, some []) := by
  have hfuel : (ofItems found).text.length < 2 * (ofItems found).text.length + 2 := by omega
  have hread := value_ofItems hcompact hfuel []
  rw [List.append_nil] at hread
  exact hread

/-! ### Compact trees as text -/

theorem isUtf8_integer (n : ℤ) : Text.IsUtf8 (Text.Decimal.integer n) := by
  have hnatural : ∀ n : ℕ, Text.IsUtf8 (Text.Decimal.natural n) := by
    intro n
    refine Text.IsUtf8.of_ascii fun byte hbyte => ?_
    have hdigit := Text.Decimal.isDigit_of_mem_natural hbyte
    simp only [Text.Decimal.isDigit, Bool.and_eq_true, decide_eq_true_eq] at hdigit
    exact UInt8.lt_of_le_of_lt hdigit.2 (by decide)
  cases n with
  | ofNat n => exact hnatural n
  | negSucc n =>
      rw [Text.Decimal.integer_negSucc]
      exact (Text.IsUtf8.of_all (a := [45]) rfl).append (hnatural (n + 1))

/-- Members with commas between them are UTF-8 text if each of them is. -/
theorem isUtf8_bodyText {ms : List (Bytes × Json)} (h : ∀ m ∈ ms, Text.IsUtf8 (memberText m)) :
    Text.IsUtf8 (bodyText ms) := by
  induction ms with
  | nil => exact Text.IsUtf8.of_ascii nofun
  | cons m ms ih =>
      have hfirst := h m List.mem_cons_self
      have hothers := ih fun other hother => h other (List.mem_cons_of_mem _ hother)
      cases ms with
      | nil =>
          rw [bodyText_singleton]
          exact hfirst
      | cons m' ms =>
          rw [bodyText_cons_cons]
          exact hfirst.append ((Text.IsUtf8.of_all (a := [44]) rfl).append hothers)

/-- **A compact tree is written in UTF-8.** -/
theorem Compact.isUtf8_text {tree : Json} (h : Compact tree) : Text.IsUtf8 tree.text := by
  induction h with
  | null => exact Text.IsUtf8.of_all (a := [110, 117, 108, 108]) rfl
  | number n => exact isUtf8_integer n
  | string s =>
      have hmark : Text.IsUtf8 [34] := Text.IsUtf8.of_all rfl
      exact (hmark.append (Literal.isUtf8_encode s)).append hmark
  | object members hkeys _ ih =>
      have hbody : Text.IsUtf8 (bodyText members) := by
        refine isUtf8_bodyText fun m hm => ?_
        obtain ⟨name, hname⟩ := hkeys m hm
        have hkey : Text.IsUtf8 ([34] ++ m.1 ++ [34, 58]) := by
          rw [hname]
          exact ((Text.IsUtf8.of_all rfl).append (Literal.isUtf8_encode name)).append
            (Text.IsUtf8.of_all rfl)
        exact hkey.append (ih m hm)
      rw [text_ofMembers]
      exact (Text.IsUtf8.of_all (a := [123]) rfl).append
        (hbody.append (Text.IsUtf8.of_all rfl))

end RollupWallet.Json
