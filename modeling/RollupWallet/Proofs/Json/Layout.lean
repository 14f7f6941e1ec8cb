import Mathlib
import RollupWallet.Proofs.Json.Grammar

/-!
# Every layout of a text is read

Where no word is expected, the reader gives back the tree of every text of the format, and the rest
begins right behind it (`Laid.value_eq`).  Conversely a tree without gaps and faults is one of the
format, whatever was expected (`laid_of_value`).  So the texts that are read as a whole are exactly
those of the format (`ofText?_eq_some_iff`); the texts that codecs write are among them
(`Compact.laid`).

Two things are said of a text beside its derivation.

* **Fuel.**  As for compact trees, a level of the reader takes at least one byte, so that fuel above
  the length of the text is enough.  The induction is on the derivation; conversely, where there is
  only a result of the reader, it is on the fuel.
* **Shapes.**  A shape in which no word occurs stays one on the way down (`Shape.Wordless`).

One level of the reader is opened once: what it gives up to its end is one `↔` for arrays, objects,
items and members each (`value_array_iff`, `value_object_iff`, `items_iff`, `members_iff`).
-/

namespace RollupWallet.Json

open Text.Decimal (isDigit)

/-! ### One level of the reader -/

/-- Blanks in front of a value are passed over. -/
theorem value_blanks {front : Bytes} (h : IsBlanks front) (fuel : ℕ) (shape : Shape)
    (text : Bytes) : value fuel shape (front ++ text) = value fuel shape text := by
  cases fuel with
  | zero => rfl
  | succ fuel => rw [value, value, skipBlanks_append h]

theorem skipBlanks_skipBlanks (text : Bytes) : skipBlanks (skipBlanks text) = skipBlanks text :=
  List.dropWhile_idempotent _ text

theorem value_skipBlanks (fuel : ℕ) (shape : Shape) (text : Bytes) :
    value fuel shape (skipBlanks text) = value fuel shape text := by
  cases fuel with
  | zero => rfl
  | succ fuel => rw [value, value, skipBlanks_skipBlanks]

theorem items_skipBlanks (fuel : ℕ) (shape : Shape) (text : Bytes) :
    items fuel shape (skipBlanks text) = items fuel shape text := by
  cases fuel with
  | zero => rfl
  | succ fuel => rw [items, items, value_skipBlanks]

/-- An array is read to its end if its items are, or if there are none. -/
theorem value_array_iff {fuel : ℕ} {shape : Shape} {inner rest : Bytes} {tree : Json} :
    value (fuel + 1) shape (91 :: inner) = (tree, some rest) ↔
      (skipBlanks inner = 93 :: rest ∧ tree = .array (before (91 :: inner) (some rest)) []) ∨
        (∀ behind, skipBlanks inner ≠ 93 :: behind) ∧
          ∃ found, items fuel shape inner = (found, some rest) ∧
            tree = .array (before (91 :: inner) (some rest)) found := by
  rw [value, skipBlanks_cons isBlank_bracket.1]
  simp only
  split
  · next behind heq =>
    simp only [heq, Prod.mk.injEq, Option.some.injEq, List.cons.injEq, true_and]
    constructor
    · rintro ⟨rfl, rfl⟩
      exact Or.inl ⟨rfl, rfl⟩
    · rintro (⟨rfl, rfl⟩ | ⟨hne, -⟩)
      · exact ⟨rfl, rfl⟩
      · exact absurd rfl (hne behind)
  · next hne =>
    constructor
    · intro h
      refine Or.inr ⟨hne, (items fuel shape inner).1, ?_⟩
      obtain ⟨rfl, hrest⟩ := Prod.mk.inj h
      rw [← hrest]
      exact ⟨rfl, rfl⟩
    · rintro (⟨heq, -⟩ | ⟨-, found, hfound, rfl⟩)
      · exact absurd heq (hne rest)
      · rw [hfound]

/-- So is an object, by its members. -/
theorem value_object_iff {fuel : ℕ} {shape : Shape} {inner rest : Bytes} {tree : Json} :
    value (fuel + 1) shape (123 :: inner) = (tree, some rest) ↔
      (skipBlanks inner = 125 :: rest ∧ tree = .object (before (123 :: inner) (some rest)) []) ∨
        (∀ behind, skipBlanks inner ≠ 125 :: behind) ∧
          ∃ found, members fuel shape inner = (found, some rest) ∧
            tree = .object (before (123 :: inner) (some rest)) found := by
  rw [value, skipBlanks_cons isBlank_brace.1]
  simp only
  split
  · next behind heq =>
    simp only [heq, Prod.mk.injEq, Option.some.injEq, List.cons.injEq, true_and]
    constructor
    · rintro ⟨rfl, rfl⟩
      exact Or.inl ⟨rfl, rfl⟩
    · rintro (⟨rfl, rfl⟩ | ⟨hne, -⟩)
      · exact ⟨rfl, rfl⟩
      · exact absurd rfl (hne behind)
  · next hne =>
    constructor
    · intro h
      refine Or.inr ⟨hne, (members fuel shape inner).1, ?_⟩
      obtain ⟨rfl, hrest⟩ := Prod.mk.inj h
      rw [← hrest]
      exact ⟨rfl, rfl⟩
    · rintro (⟨heq, -⟩ | ⟨-, found, hfound, rfl⟩)
      · exact absurd heq (hne rest)
      · rw [hfound]

/-- The items of an array are read to its end if the first one is and a closing bracket follows, or
a comma and a bracket, or a comma and the other items, unless the array is a word and the first item
its last byte: then a comma and something that is no byte may follow. -/
theorem items_iff {fuel : ℕ} {shape : Shape} {text after : Bytes} {found : List Json} :
    items (fuel + 1) shape text = (found, some after) ↔
      ∃ item rest, value fuel shape.item text = (item, some rest) ∧
        (skipBlanks rest = 93 :: after ∧ found = [item] ∨
          ∃ next, skipBlanks rest = 44 :: next ∧
            (skipBlanks next = 93 :: after ∧ found = [item, .gap] ∨
              (∀ behind, skipBlanks next ≠ 93 :: behind) ∧
                (shape.afterItem.isFull = true ∧
                    (afterRefused? (skipBlanks next)).map skipBlanks = some (93 :: after) ∧
                    found = [item, .gap] ∨
                  shape.afterItem.isFull = false ∧
                    ∃ others, items fuel shape.afterItem (skipBlanks next) = (others, some after) ∧
                      found = item :: others))) := by
  rw [items]
  constructor
  · intro h
    rcases hvalue : value fuel shape.item text with ⟨item, _ | rest⟩
    · rw [hvalue] at h
      cases h
    · refine ⟨item, rest, rfl, ?_⟩
      simp only [hvalue] at h
      split at h
      · next next hcomma =>
        refine Or.inr ⟨next, hcomma, ?_⟩
        split at h
        · next hbracket =>
          cases h
          exact Or.inl ⟨hbracket, rfl⟩
        · next hne =>
          refine Or.inr ⟨hne, ?_⟩
          split at h
          · next hfull =>
            split at h
            · next hrefused =>
              cases h
              exact Or.inl ⟨hfull, hrefused, rfl⟩
            · cases h
          · next hfull =>
            obtain ⟨rfl, hafter⟩ := Prod.mk.inj h
            refine Or.inr ⟨Bool.eq_false_iff.mpr hfull, _, ?_, rfl⟩
            rw [← hafter]
      · next hbracket =>
        cases h
        exact Or.inl ⟨hbracket, rfl⟩
      · cases h
  · rintro ⟨item, rest, hvalue, hend⟩
    simp only [hvalue]
    rcases hend with ⟨hbracket, rfl⟩ | ⟨next, hcomma, hend⟩
    · simp only [hbracket]
    · simp only [hcomma]
      rcases hend with ⟨hbracket, rfl⟩ | ⟨hne, hend⟩
      · simp only [hbracket]
      · split
        · next behind heq => exact absurd heq (hne behind)
        · rcases hend with ⟨hfull, hrefused, rfl⟩ | ⟨hfull, others, hothers, rfl⟩
          · simp only [hfull, if_true, hrefused]
          · simp only [hfull, Bool.false_eq_true, if_false, hothers]

/-- The members of an object are read to its end if the first key and its value are and a closing
brace follows, or a comma and the other members. -/
theorem members_iff {fuel : ℕ} {shape : Shape} {text after : Bytes} {found : List (Bytes × Json)} :
    members (fuel + 1) shape text = (found, some after) ↔
      ∃ inner key behind next item rest, skipBlanks text = 34 :: inner ∧
        Literal.split? inner = some (key, behind) ∧ skipBlanks behind = 58 :: next ∧
        value fuel (shape.member (Literal.string? key)) next = (item, some rest) ∧
        (skipBlanks rest = 125 :: after ∧ found = [(key, item)] ∨
          ∃ next others, skipBlanks rest = 44 :: next ∧
            members fuel shape next = (others, some after) ∧ found = (key, item) :: others) := by
  rw [members]
  constructor
  · intro h
    split at h
    · next inner hquote =>
      split at h
      · cases h
      · next key behind hkey =>
        split at h
        · next next hcolon =>
          rcases hvalue : value fuel (shape.member (Literal.string? key)) next with ⟨item, _ | rest⟩
          · simp only [hvalue] at h
            cases h
          · refine ⟨inner, key, behind, next, item, rest, hquote, hkey, hcolon, hvalue, ?_⟩
            simp only [hvalue] at h
            split at h
            · next next' hcomma =>
              obtain ⟨rfl, hafter⟩ := Prod.mk.inj h
              refine Or.inr ⟨next', _, hcomma, ?_, rfl⟩
              rw [← hafter]
            · next hbrace =>
              cases h
              exact Or.inl ⟨hbrace, rfl⟩
            · cases h
        · cases h
    · cases h
  · rintro ⟨inner, key, behind, next, item, rest, hquote, hkey, hcolon, hvalue, hend⟩
    simp only [hquote, hkey, hcolon, hvalue]
    rcases hend with ⟨hbrace, rfl⟩ | ⟨next', others, hcomma, hothers, rfl⟩
    · simp only [hbrace]
    · simp only [hcomma, hothers]

theorem members_label_iff {fuel : ℕ} {shape : Shape} {key label text after : Bytes}
    (hkey : IsLabel key label) {found : List (Bytes × Json)} :
    members (fuel + 1) shape (label ++ text) = (found, some after) ↔
      ∃ item rest, value fuel (shape.member (Literal.string? key)) text = (item, some rest) ∧
        (skipBlanks rest = 125 :: after ∧ found = [(key, item)] ∨
          ∃ next others, skipBlanks rest = 44 :: next ∧
            members fuel shape next = (others, some after) ∧ found = (key, item) :: others) := by
  obtain ⟨hraw, front, gap, hfront, hgap, rfl⟩ := hkey
  have hlabel : front ++ 34 :: (key ++ 34 :: (gap ++ [58])) ++ text =
      front ++ 34 :: (key ++ 34 :: (gap ++ 58 :: text)) := by
    simp only [List.append_assoc, List.cons_append, List.nil_append]
  have hquote := skipBlanks_append_cons hfront isBlank_quote (key ++ 34 :: (gap ++ 58 :: text))
  have hcolon := skipBlanks_append_cons hgap isBlank_colon text
  rw [members_iff, hlabel, hquote]
  constructor
  · rintro ⟨inner, key', behind, next, item, rest, ⟨⟩, hsplit, hnext, hrest⟩
    rw [hraw.split?] at hsplit
    cases hsplit
    rw [hcolon] at hnext
    cases hnext
    exact ⟨item, rest, hrest⟩
  · rintro ⟨item, rest, hrest⟩
    exact ⟨_, key, _, text, item, rest, rfl, hraw.split? _, hcolon, hrest⟩

/-! ### Whole texts -/

/-- A shape in which no word is expected. -/
inductive Shape.Wordless : Shape → Prop where
  | any : Wordless .any
  | list {item : Shape} (hitem : item.Wordless) : Wordless (.list item)
  | record {fields : List (String × Shape)} (hfields : ∀ field ∈ fields, field.2.Wordless) :
      Wordless (.record fields)

namespace Shape.Wordless

variable {shape : Shape}

theorem item (h : shape.Wordless) : shape.item.Wordless := by
  cases h with
  | any => exact any
  | list hitem => exact hitem
  | @record fields hfields =>
      cases fields with
      | nil => exact any
      | cons field fields => exact hfields field List.mem_cons_self

theorem afterItem (h : shape.Wordless) : shape.afterItem.Wordless := by
  cases h with
  | any => exact any
  | list hitem => exact list hitem
  | @record fields hfields =>
      cases fields with
      | nil => exact any
      | cons field fields => exact record fun f hf => hfields f (List.mem_cons_of_mem _ hf)

theorem isFull (h : shape.Wordless) : shape.isFull = false := by
  cases h <;> rfl

theorem member (h : shape.Wordless) (name : Option String) : (shape.member name).Wordless := by
  cases h with
  | any => exact any
  | list hitem => exact any
  | @record fields hfields =>
      rw [Shape.member]
      split
      · next field hfield => exact hfields _ (List.mem_of_find?_eq_some hfield)
      · exact any

end Shape.Wordless

/-- A text of the format begins neither with a blank nor with the end of an array. -/
theorem Laid.begins {tree : Json} (h : Laid tree) : Begins tree := by
  cases h with
  | null => exact ⟨110, _, rfl, by decide, by decide⟩
  | bool value => cases value <;> exact ⟨_, _, rfl, by decide, by decide⟩
  | number htoken =>
      obtain ⟨byte, others, heq, hbyte⟩ := htoken.exists_cons
      exact ⟨byte, others, heq, isBlank_of_starts_number hbyte,
        ne_of_starts_number hbyte (by decide)⟩
  | string => exact ⟨34, _, rfl, by decide, by decide⟩
  | noItems => exact ⟨91, _, rfl, by decide, by decide⟩
  | array => exact ⟨91, _, rfl, by decide, by decide⟩
  | noMembers => exact ⟨123, _, rfl, by decide, by decide⟩
  | object => exact ⟨123, _, rfl, by decide, by decide⟩

theorem LaidItems.skipBlanks_ne {found : List Json} {inner : Bytes} (h : LaidItems found inner)
    (rest behind : Bytes) : skipBlanks (inner ++ rest) ≠ 93 :: behind := by
  have hfirst (item : Json) (text rest : Bytes) (hitem : Laid item) (htext : Spaced item text) :
      skipBlanks (text ++ rest) ≠ 93 :: behind := by
    obtain ⟨front, back, hfront, -, rfl⟩ := htext
    obtain ⟨byte, others, heq, hblank, hbyte⟩ := hitem.begins
    rw [heq, List.append_assoc, skipBlanks_append hfront, List.cons_append, List.cons_append,
      skipBlanks_cons hblank]
    exact fun h => hbyte (List.cons.inj h).1
  cases h with
  | last hitem htext => exact hfirst _ _ _ hitem htext
  | more hitem htext _ =>
      rw [List.append_assoc]
      exact hfirst _ _ _ hitem htext

theorem LaidMembers.skipBlanks_ne {found : List (Bytes × Json)} {inner : Bytes}
    (h : LaidMembers found inner) (rest behind : Bytes) :
    skipBlanks (inner ++ rest) ≠ 125 :: behind := by
  have hfirst (key label rest : Bytes) (hkey : IsLabel key label) :
      skipBlanks (label ++ rest) ≠ 125 :: behind := by
    obtain ⟨-, front, gap, hfront, -, rfl⟩ := hkey
    rw [List.append_assoc, skipBlanks_append hfront, List.cons_append,
      skipBlanks_cons isBlank_quote]
    exact fun h => absurd (List.cons.inj h).1 (by decide)
  cases h with
  | last hkey =>
      rw [List.append_assoc]
      exact hfirst _ _ _ hkey
  | more hkey =>
      rw [List.append_assoc]
      exact hfirst _ _ _ hkey

/-- Words, strings and numbers are read wherever they stand. -/
theorem value_scalar {tree : Json} (h : Laid tree) (hnested : tree.isNested = false) {fuel : ℕ}
    (hfuel : 0 < fuel) (shape : Shape) {rest : Bytes} (hrest : Follows rest) :
    value fuel shape (tree.text ++ rest) = (tree, some rest) := by
  cases h with
  | null => exact value_eq_scalar hfuel (by decide) (by decide) (by decide)
  | bool value =>
      cases value <;> exact value_eq_scalar hfuel (by decide) (by decide) (by decide)
  | @string raw hraw =>
      have htext : (Json.string raw).text ++ rest = 34 :: (raw ++ 34 :: rest) := by
        simp [Json.text]
      rw [htext, value_eq_scalar hfuel (by decide) (by decide) (by decide)]
      simp only [scalar, hraw.split?]
  | @number token htoken =>
      have hnumber := htoken.number? hrest
      obtain ⟨byte, others, rfl, hbyte⟩ := htoken.exists_cons
      have hother : ∀ other : UInt8, isDigit other = false ∧ other ≠ 45 → byte ≠ other :=
        fun _ => ne_of_starts_number hbyte
      rw [List.cons_append] at hnumber
      show value fuel shape (byte :: (others ++ rest)) = _
      rw [value_eq_scalar hfuel (isBlank_of_starts_number hbyte) (hother 91 (by decide))
        (hother 123 (by decide))]
      unfold scalar
      split
      · next h => exact absurd (List.cons.inj h).1 (hother 110 (by decide))
      · next h => exact absurd (List.cons.inj h).1 (hother 116 (by decide))
      · next h => exact absurd (List.cons.inj h).1 (hother 102 (by decide))
      · next h => exact absurd (List.cons.inj h).1 (hother 34 (by decide))
      · rw [hnumber]
  | noItems | array | noMembers | object => cases hnested

/-- The own text of an array or an object ends with its closing mark. -/
theorem before_closing (opening closing : UInt8) (inner rest : Bytes) :
    before (opening :: (inner ++ closing :: rest)) (some rest) =
      opening :: (inner ++ [closing]) := by
  have hown := before_append (opening :: (inner ++ [closing])) rest
  rwa [List.cons_append, List.append_assoc] at hown

/-- An array or an object is read if its inside is. -/
theorem value_noItems {gap : Bytes} (hgap : IsBlanks gap) (fuel : ℕ) (shape : Shape)
    (rest : Bytes) :
    value (fuel + 1) shape (91 :: (gap ++ [93]) ++ rest) =
      (.array (91 :: (gap ++ [93])) [], some rest) := by
  rw [List.cons_append, List.append_assoc]
  refine value_array_iff.mpr (Or.inl ⟨skipBlanks_append_cons hgap isBlank_bracket.2 rest, ?_⟩)
  exact congrArg (Json.array · []) (before_closing 91 93 gap rest).symm

theorem value_noMembers {gap : Bytes} (hgap : IsBlanks gap) (fuel : ℕ) (shape : Shape)
    (rest : Bytes) :
    value (fuel + 1) shape (123 :: (gap ++ [125]) ++ rest) =
      (.object (123 :: (gap ++ [125])) [], some rest) := by
  rw [List.cons_append, List.append_assoc]
  refine value_object_iff.mpr (Or.inl ⟨skipBlanks_append_cons hgap isBlank_brace.2 rest, ?_⟩)
  exact congrArg (Json.object · []) (before_closing 123 125 gap rest).symm

theorem LaidItems.value_eq {found read : List Json} {inner rest : Bytes} {fuel : ℕ} {shape : Shape}
    (h : LaidItems found inner)
    (hread : items fuel shape (inner ++ 93 :: rest) = (read, some rest)) :
    value (fuel + 1) shape (91 :: (inner ++ [93]) ++ rest) =
      (.array (91 :: (inner ++ [93])) read, some rest) := by
  rw [List.cons_append, List.append_assoc]
  refine value_array_iff.mpr (Or.inr ⟨h.skipBlanks_ne _, read, hread, ?_⟩)
  exact congrArg (Json.array · read) (before_closing 91 93 inner rest).symm

theorem LaidMembers.value_eq {found read : List (Bytes × Json)} {inner rest : Bytes} {fuel : ℕ}
    {shape : Shape} (h : LaidMembers found inner)
    (hread : members fuel shape (inner ++ 125 :: rest) = (read, some rest)) :
    value (fuel + 1) shape (123 :: (inner ++ [125]) ++ rest) =
      (.object (123 :: (inner ++ [125])) read, some rest) := by
  rw [List.cons_append, List.append_assoc]
  refine value_object_iff.mpr (Or.inr ⟨h.skipBlanks_ne _, read, hread, ?_⟩)
  exact congrArg (Json.object · read) (before_closing 123 125 inner rest).symm

theorem Spaced.length_le {tree : Json} {text : Bytes} (h : Spaced tree text) :
    tree.text.length ≤ text.length := by
  obtain ⟨front, back, -, -, rfl⟩ := h
  simp only [List.length_append]
  omega

/-- A value between blanks is read if it is read without them. -/
theorem Spaced.value_eq {tree read : Json} {text rest : Bytes} {fuel : ℕ} {shape : Shape}
    (h : Spaced tree text) (hrest : Follows rest)
    (hread : ∀ rest, Follows rest →
      value fuel shape (tree.text ++ rest) = (read, some rest)) :
    ∃ back, IsBlanks back ∧ value fuel shape (text ++ rest) = (read, some (back ++ rest)) := by
  obtain ⟨front, back, hfront, hback, rfl⟩ := h
  refine ⟨back, hback, ?_⟩
  rw [List.append_assoc, value_blanks hfront, List.append_assoc]
  exact hread _ (Follows.append hback hrest)

/-- The last item of an array is read, and the array ends behind it. -/
theorem Spaced.items_eq {item : Json} {text : Bytes} {fuel : ℕ} {shape : Shape}
    (h : Spaced item text) (hread : ∀ rest, Follows rest →
      value fuel shape.item (item.text ++ rest) = (item, some rest)) (rest : Bytes) :
    items (fuel + 1) shape (text ++ 93 :: rest) = ([item], some rest) := by
  have hbracket : Follows (93 :: rest) := Or.inr (Or.inr (Or.inl rfl))
  obtain ⟨back, hback, hvalue⟩ := h.value_eq hbracket hread
  have hend := skipBlanks_append_cons hback isBlank_bracket.2 rest
  exact items_iff.mpr ⟨item, _, hvalue, Or.inl ⟨hend, rfl⟩⟩

mutual

/-- **The reader gives back every text of the format** where no word is expected, and the rest
begins right behind it. -/
theorem Laid.value_eq {tree : Json} (h : Laid tree) {shape : Shape} (hshape : shape.Wordless)
    {fuel : ℕ} (hfuel : tree.text.length < fuel) {rest : Bytes} (hrest : Follows rest) :
    value fuel shape (tree.text ++ rest) = (tree, some rest) := by
  obtain ⟨fuel, rfl⟩ := Nat.exists_eq_succ_of_ne_zero (Nat.ne_zero_of_lt hfuel)
  cases h with
  | null => exact value_scalar .null rfl (Nat.succ_pos _) shape hrest
  | bool value => exact value_scalar (.bool value) rfl (Nat.succ_pos _) shape hrest
  | number h => exact value_scalar (.number h) rfl (Nat.succ_pos _) shape hrest
  | string h => exact value_scalar (.string h) rfl (Nat.succ_pos _) shape hrest
  | noItems hgap => exact value_noItems hgap fuel shape rest
  | noMembers hgap => exact value_noMembers hgap fuel shape rest
  | array hfound =>
      simp only [Json.text, List.length_cons, List.length_append] at hfuel
      exact hfound.value_eq (hfound.items_eq hshape (by omega) rest)
  | object hfound =>
      simp only [Json.text, List.length_cons, List.length_append] at hfuel
      exact hfound.value_eq (hfound.members_eq (fun m _ => hshape.member _) (by omega) rest)

/-- The items of an array are read up to its closing bracket. -/
theorem LaidItems.items_eq {found : List Json} {inner : Bytes} (h : LaidItems found inner)
    {shape : Shape} (hshape : shape.Wordless) {fuel : ℕ} (hfuel : inner.length + 1 < fuel)
    (rest : Bytes) : items fuel shape (inner ++ 93 :: rest) = (found, some rest) := by
  obtain ⟨fuel, rfl⟩ := Nat.exists_eq_succ_of_ne_zero (Nat.ne_zero_of_lt hfuel)
  cases h with
  | @last item text hitem htext =>
      have hlength := htext.length_le
      exact htext.items_eq (fun _ hrest => hitem.value_eq hshape.item (by omega) hrest) rest
  | @more item others text inner hitem htext hothers =>
      have hlength := htext.length_le
      rw [List.length_append, List.length_cons] at hfuel
      have hcomma : Follows (44 :: (inner ++ 93 :: rest)) := Or.inr (Or.inl rfl)
      obtain ⟨back, hback, hread⟩ := htext.value_eq hcomma fun _ hrest =>
        hitem.value_eq hshape.item (by omega : _ < fuel) hrest
      have hnext := skipBlanks_append_cons hback isBlank_comma (inner ++ 93 :: rest)
      have hrest : items fuel shape.afterItem (inner ++ 93 :: rest) = (others, some rest) :=
        hothers.items_eq hshape.afterItem (by omega) rest
      rw [← items_skipBlanks] at hrest
      rw [List.append_assoc, List.cons_append]
      refine items_iff.mpr ⟨item, _, hread, Or.inr ⟨_, hnext, Or.inr ⟨?_, Or.inr ?_⟩⟩⟩
      · exact hothers.skipBlanks_ne _
      · exact ⟨hshape.afterItem.isFull, others, hrest, rfl⟩

/-- The members of an object are read up to its closing brace. -/
theorem LaidMembers.members_eq {found : List (Bytes × Json)} {inner : Bytes}
    (h : LaidMembers found inner) {shape : Shape}
    (hshape : ∀ m ∈ found, (shape.member (Literal.string? m.1)).Wordless) {fuel : ℕ}
    (hfuel : inner.length + 1 < fuel) (rest : Bytes) :
    members fuel shape (inner ++ 125 :: rest) = (found, some rest) := by
  obtain ⟨fuel, rfl⟩ := Nat.exists_eq_succ_of_ne_zero (Nat.ne_zero_of_lt hfuel)
  cases h with
  | @last key label text item hkey hitem htext =>
      have hlength := htext.length_le
      rw [List.length_append] at hfuel
      have hbrace : Follows (125 :: rest) := Or.inr (Or.inr (Or.inr rfl))
      obtain ⟨back, hback, hread⟩ := htext.value_eq hbrace fun _ hrest =>
        hitem.value_eq (hshape _ List.mem_cons_self) (by omega : _ < fuel) hrest
      have hend := skipBlanks_append_cons hback isBlank_brace.2 rest
      rw [List.append_assoc]
      exact (members_label_iff hkey).mpr ⟨item, _, hread, Or.inl ⟨hend, rfl⟩⟩
  | @more key label text inner item others hkey hitem htext hothers =>
      have hlength := htext.length_le
      rw [List.length_append, List.length_append, List.length_cons] at hfuel
      have hcomma : Follows (44 :: (inner ++ 125 :: rest)) := Or.inr (Or.inl rfl)
      obtain ⟨back, hback, hread⟩ := htext.value_eq hcomma fun _ hrest =>
        hitem.value_eq (hshape _ List.mem_cons_self) (by omega : _ < fuel) hrest
      have hnext := skipBlanks_append_cons hback isBlank_comma (inner ++ 125 :: rest)
      have hrest : members fuel shape (inner ++ 125 :: rest) = (others, some rest) :=
        hothers.members_eq (fun m hm => hshape m (List.mem_cons_of_mem _ hm)) (by omega) rest
      rw [List.append_assoc, List.append_assoc, List.cons_append]
      exact (members_label_iff hkey).mpr ⟨item, _, hread, Or.inr ⟨_, others, hnext, hrest, rfl⟩⟩

end

/-! ### What is read is laid -/

theorem exists_blanks {text rest : Bytes} (h : skipBlanks text = rest) :
    ∃ front, IsBlanks front ∧ text = front ++ rest := by
  refine ⟨text.takeWhile isBlank, fun byte hbyte => List.mem_takeWhile_imp hbyte, ?_⟩
  rw [← h]
  exact List.takeWhile_append_dropWhile.symm

/-- A token is read only where the grammar has one. -/
theorem laid_of_scalar {text rest : Bytes} {tree : Json} (h : scalar text = (tree, some rest)) :
    Laid tree ∧ text = tree.text ++ rest := by
  unfold scalar at h
  split at h
  · cases h
    exact ⟨.null, rfl⟩
  · cases h
    exact ⟨.bool true, rfl⟩
  · cases h
    exact ⟨.bool false, rfl⟩
  · split at h
    · next inner raw rest' hsplit =>
      cases h
      obtain ⟨hraw, rfl⟩ := split?_cut hsplit
      refine ⟨.string hraw, ?_⟩
      simp only [Json.text, List.append_assoc, List.cons_append, List.nil_append]
    · cases h
  · split at h
    · next token rest' hnumber =>
      cases h
      obtain ⟨htoken, rfl⟩ := number?_cut hnumber
      exact ⟨.number htoken, rfl⟩
    · cases h

mutual

/-- **What is read is laid.**  Whatever is expected, a tree without gaps and faults is one of the
format, and its text stands behind blanks. -/
theorem laid_of_value {fuel : ℕ} {shape : Shape} {text rest : Bytes} {tree : Json}
    (h : value fuel shape text = (tree, some rest)) (hsound : tree.isSound = true) :
    Laid tree ∧ ∃ front, IsBlanks front ∧ text = front ++ (tree.text ++ rest) := by
  cases fuel with
  | zero => cases h
  | succ fuel =>
      have hread := h
      rw [value] at hread
      split at hread
      · next inner hbracket =>
        obtain ⟨front, hfront, rfl⟩ := exists_blanks hbracket
        rw [← value_skipBlanks, hbracket, value_array_iff] at h
        rcases h with ⟨hend, rfl⟩ | ⟨-, found, hfound, rfl⟩
        · obtain ⟨gap, hgap, rfl⟩ := exists_blanks hend
          rw [before_closing]
          exact ⟨.noItems hgap, front, hfront, by simp [Json.text]⟩
        · obtain ⟨inner, hinner, rfl⟩ := laid_of_items hfound hsound
          rw [before_closing]
          exact ⟨.array hinner, front, hfront, by simp [Json.text]⟩
      · next inner hbrace =>
        obtain ⟨front, hfront, rfl⟩ := exists_blanks hbrace
        rw [← value_skipBlanks, hbrace, value_object_iff] at h
        rcases h with ⟨hend, rfl⟩ | ⟨-, found, hfound, rfl⟩
        · obtain ⟨gap, hgap, rfl⟩ := exists_blanks hend
          rw [before_closing]
          exact ⟨.noMembers hgap, front, hfront, by simp [Json.text]⟩
        · obtain ⟨inner, hinner, rfl⟩ := laid_of_members hfound hsound
          rw [before_closing]
          exact ⟨.object hinner, front, hfront, by simp [Json.text]⟩
      · obtain ⟨front, hfront, htext⟩ := exists_blanks (rfl : skipBlanks text = _)
        obtain ⟨hlaid, heq⟩ := laid_of_scalar hread
        rw [heq] at htext
        exact ⟨hlaid, front, hfront, htext⟩

theorem laid_of_items {fuel : ℕ} {shape : Shape} {text rest : Bytes} {found : List Json}
    (h : items fuel shape text = (found, some rest)) (hsound : allSound found = true) :
    ∃ inner, LaidItems found inner ∧ text = inner ++ 93 :: rest := by
  cases fuel with
  | zero => cases h
  | succ fuel =>
      obtain ⟨item, behind, hitem, hend⟩ := items_iff.mp h
      rcases hend with ⟨hbracket, rfl⟩ | ⟨next, hcomma, ⟨-, rfl⟩ | ⟨-, ⟨-, -, rfl⟩ |
        ⟨-, others, hothers, rfl⟩⟩⟩
      · rw [allSound, Bool.and_eq_true] at hsound
        obtain ⟨hlaid, front, hfront, rfl⟩ := laid_of_value hitem hsound.1
        obtain ⟨back, hback, rfl⟩ := exists_blanks hbracket
        refine ⟨_, .last hlaid ⟨front, back, hfront, hback, rfl⟩, ?_⟩
        simp only [List.append_assoc]
      · rw [allSound, Bool.and_eq_true] at hsound
        cases hsound.2
      · rw [allSound, Bool.and_eq_true] at hsound
        cases hsound.2
      · rw [allSound, Bool.and_eq_true] at hsound
        obtain ⟨hlaid, front, hfront, rfl⟩ := laid_of_value hitem hsound.1
        obtain ⟨back, hback, rfl⟩ := exists_blanks hcomma
        rw [items_skipBlanks] at hothers
        obtain ⟨inner, hinner, rfl⟩ := laid_of_items hothers hsound.2
        refine ⟨_, .more hlaid ⟨front, back, hfront, hback, rfl⟩ hinner, ?_⟩
        simp only [List.append_assoc, List.cons_append]

theorem laid_of_members {fuel : ℕ} {shape : Shape} {text rest : Bytes}
    {found : List (Bytes × Json)} (h : members fuel shape text = (found, some rest))
    (hsound : membersSound found = true) :
    ∃ inner, LaidMembers found inner ∧ text = inner ++ 125 :: rest := by
  cases fuel with
  | zero => cases h
  | succ fuel =>
      obtain ⟨_, key, behind, next, item, behind', hquote, hsplit, hcolon, hitem, hend⟩ :=
        members_iff.mp h
      obtain ⟨front, hfront, rfl⟩ := exists_blanks hquote
      obtain ⟨hraw, rfl⟩ := split?_cut hsplit
      obtain ⟨gap, hgap, rfl⟩ := exists_blanks hcolon
      have hlabel : IsLabel key (front ++ 34 :: (key ++ 34 :: (gap ++ [58]))) :=
        ⟨hraw, front, gap, hfront, hgap, rfl⟩
      rcases hend with ⟨hbrace, rfl⟩ | ⟨next', others, hcomma, hothers, rfl⟩
      · rw [membersSound, Bool.and_eq_true] at hsound
        obtain ⟨hlaid, front', hfront', rfl⟩ := laid_of_value hitem hsound.1
        obtain ⟨back, hback, rfl⟩ := exists_blanks hbrace
        refine ⟨_, .last hlabel hlaid ⟨front', back, hfront', hback, rfl⟩, ?_⟩
        simp only [List.append_assoc, List.cons_append, List.nil_append]
      · rw [membersSound, Bool.and_eq_true] at hsound
        obtain ⟨hlaid, front', hfront', rfl⟩ := laid_of_value hitem hsound.1
        obtain ⟨back, hback, rfl⟩ := exists_blanks hcomma
        obtain ⟨inner, hinner, rfl⟩ := laid_of_members hothers hsound.2
        refine ⟨_, .more hlabel hlaid ⟨front', back, hfront', hback, rfl⟩ hinner, ?_⟩
        simp only [List.append_assoc, List.cons_append, List.nil_append]

end

theorem IsBlanks.follows {back : Bytes} (h : IsBlanks back) : Follows back := by
  have hback : Follows (back ++ []) := Follows.append h trivial
  rwa [List.append_nil] at hback

/-- **The texts that are read as a whole are those of the format**, with blanks on both sides. -/
theorem ofText?_eq_some_iff {text : Bytes} {tree : Json} :
    ofText? text = some tree ↔ Laid tree ∧ Spaced tree text := by
  constructor
  · intro h
    unfold ofText? at h
    split at h
    · next found rest hparse =>
      rw [Option.ite_none_right_eq_some, Bool.and_eq_true, Option.some.injEq] at h
      obtain ⟨⟨hsound, hblanks⟩, rfl⟩ := h
      obtain ⟨hlaid, front, hfront, htext⟩ := laid_of_value hparse hsound
      exact ⟨hlaid, front, rest, hfront, List.all_eq_true.mp hblanks, htext⟩
    · cases h
  · rintro ⟨hlaid, front, back, hfront, hback, rfl⟩
    have hparse : parse .any (front ++ (tree.text ++ back)) = (tree, some back) := by
      rw [parse, value_blanks hfront]
      refine hlaid.value_eq .any ?_ hback.follows
      simp only [List.length_append]
      omega
    simp only [ofText?, hparse, hlaid.isSound, hback.all, Bool.and_self, if_true]

theorem Spaced.self (tree : Json) : Spaced tree tree.text :=
  ⟨[], [], .nil, .nil, (List.append_nil _).symm⟩

/-! ### Texts without blanks -/

theorem isRaw_encode (bytes : Bytes) : IsRaw (Literal.encode bytes) :=
  (split?_cut (Literal.split?_encode bytes [])).1

theorem isNumber_integer (n : ℤ) : IsNumber (Text.Decimal.integer n) := by
  have hend : Delimits [] := trivial
  exact (number?_cut (number?_integer n hend)).1

theorem LaidMembers.bodyText {ms : List (Bytes × Json)} (hne : ms ≠ [])
    (h : ∀ m ∈ ms, IsRaw m.1 ∧ Laid m.2) : LaidMembers ms (Json.bodyText ms) := by
  induction ms with
  | nil => exact absurd rfl hne
  | cons m ms ih =>
      obtain ⟨key, tree⟩ := m
      obtain ⟨⟨hkey, hvalue⟩, h⟩ := List.forall_mem_cons.mp h
      have hlabel : IsLabel key (34 :: (key ++ [34, 58])) := ⟨hkey, [], [], .nil, .nil, rfl⟩
      cases ms with
      | nil =>
          have hlast := LaidMembers.last hlabel hvalue (.self tree)
          rw [bodyText_singleton]
          simpa [memberText] using hlast
      | cons m' ms =>
          have hmore := LaidMembers.more hlabel hvalue (.self tree)
            (ih (List.cons_ne_nil _ _) h)
          rw [bodyText_cons_cons]
          simpa [memberText] using hmore

/-- An object in its shortest text is one of the format. -/
theorem Laid.ofMembers {ms : List (Bytes × Json)} (h : ∀ m ∈ ms, IsRaw m.1 ∧ Laid m.2) :
    Laid (Json.ofMembers ms) := by
  cases ms with
  | nil => exact .noMembers .nil
  | cons m ms => exact .object (.bodyText (List.cons_ne_nil _ _) h)

/-- **What codecs write is a text of the format.** -/
theorem Compact.laid {tree : Json} (h : Compact tree) : Laid tree := by
  induction h with
  | null => exact .null
  | number n => exact .number (isNumber_integer n)
  | string s => exact .string (isRaw_encode _)
  | object members hkeys _ ih =>
      refine .ofMembers fun m hm => ⟨?_, ih m hm⟩
      obtain ⟨name, hname⟩ := hkeys m hm
      exact hname ▸ isRaw_encode _

end RollupWallet.Json
