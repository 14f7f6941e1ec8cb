import Mathlib
import RollupWallet.Proofs.Json.Layout

/-!
# Inside and outside of strings

Whether a place of a text is inside a string is found out from the left by the quotation marks
alone, if a backslash inside a string is passed over together with the byte behind it, and outside
of strings there is none (`scan`).

A reader that has lost its place may take the inside of a string for its outside.  It cannot come to
an end at the same place as the right reading: the two are never both outside (`scan_complement`).
And where no word is expected every reading starts and ends outside (`scan_value`), so the items and
the members of a text of the format do as well (`LaidItems.scan`, `LaidMembers.scan`).
-/

namespace RollupWallet.Json

open Text.Decimal (isDigit)

/-- Whether the end of a text is inside a string, given whether its start is; `none` if there is a
backslash outside, or one without a byte behind it. -/
def scan : (inside : Bool) → Bytes → Option Bool
  | inside, [] => some inside
  | false, byte :: rest =>
    if byte = 34 then scan true rest else if byte = 92 then none else scan false rest
  | true, 34 :: rest => scan false rest
  | true, 92 :: _ :: rest => scan true rest
  | true, [92] => none
  | true, _ :: rest => scan true rest

/-- Bytes that are neither quotation marks nor backslashes. -/
def IsQuiet (bytes : Bytes) : Prop := ∀ byte ∈ bytes, byte ≠ 34 ∧ byte ≠ 92

theorem scan_cons {byte : UInt8} (h : byte ≠ 34 ∧ byte ≠ 92) (inside : Bool) (rest : Bytes) :
    scan inside (byte :: rest) = scan inside rest := by
  cases inside with
  | false => rw [scan, if_neg h.1, if_neg h.2]
  | true =>
      rw [scan]
      · rintro rfl
        exact h.1 rfl
      · rintro other others rfl
        exact absurd rfl h.2
      · rintro rfl
        exact absurd rfl h.2

theorem IsQuiet.scan_append {bytes : Bytes} (h : IsQuiet bytes) (inside : Bool) (rest : Bytes) :
    scan inside (bytes ++ rest) = scan inside rest := by
  induction bytes with
  | nil => rfl
  | cons byte bytes ih =>
      rw [List.cons_append, scan_cons (h byte List.mem_cons_self)]
      exact ih fun other hother => h other (List.mem_cons_of_mem _ hother)

theorem scan_quote (inside : Bool) (rest : Bytes) :
    scan inside (34 :: rest) = scan (!inside) rest := by
  cases inside <;> rfl

theorem scan_false_backslash (rest : Bytes) : scan false (92 :: rest) = none := rfl

/-- **Two readings that start apart end apart**: what is inside for the one is outside for the other
up to the end. -/
theorem scan_complement {text : Bytes} {a b : Bool} (ha : scan false text = some a)
    (hb : scan true text = some b) : b = !a := by
  induction text generalizing a b with
  | nil =>
      cases ha
      cases hb
      rfl
  | cons byte text ih =>
      by_cases hquote : byte = 34
      · -- the readings change places
        subst hquote
        rw [scan_quote] at ha hb
        rw [ih hb ha, Bool.not_not]
      · have hback : byte ≠ 92 := by
          rintro rfl
          rw [scan_false_backslash] at ha
          cases ha
        rw [scan_cons ⟨hquote, hback⟩] at ha hb
        exact ih ha hb

/-- Bytes at the front that are no marks are passed over. -/
theorem scan_dropWhile {drop : UInt8 → Bool} (hquote : drop 34 = false) (hback : drop 92 = false)
    (inside : Bool) (text : Bytes) : scan inside (text.dropWhile drop) = scan inside text := by
  have hquiet : IsQuiet (text.takeWhile drop) := by
    intro byte hbyte
    have hdrop := List.mem_takeWhile_imp hbyte
    constructor
    · rintro rfl
      exact Bool.false_ne_true (hquote.symm.trans hdrop)
    · rintro rfl
      exact Bool.false_ne_true (hback.symm.trans hdrop)
  have hsplit : text.takeWhile drop ++ text.dropWhile drop = text :=
    List.takeWhile_append_dropWhile
  rw [← hquiet.scan_append inside (text.dropWhile drop), hsplit]

theorem scan_skipBlanks (inside : Bool) (text : Bytes) :
    scan inside (skipBlanks text) = scan inside text :=
  scan_dropWhile rfl rfl inside text

theorem scan_blanks {front : Bytes} (h : IsBlanks front) (inside : Bool) (rest : Bytes) :
    scan inside (front ++ rest) = scan inside rest := by
  rw [← scan_skipBlanks, skipBlanks_append h, scan_skipBlanks]

/-- What stands in a text behind its blanks stands there for the scan. -/
theorem scan_of_skipBlanks {inside : Bool} {text rest : Bytes} {byte : UInt8}
    (h : skipBlanks text = byte :: rest) (hbyte : byte ≠ 34 ∧ byte ≠ 92) :
    scan inside text = scan inside rest := by
  rw [← scan_skipBlanks, h, scan_cons hbyte]

/-! ### Tokens -/

theorem ne_of_hex {byte : UInt8} {n : ℕ} (h : Text.Hex.value? byte = some n) :
    byte ≠ 34 ∧ byte ≠ 92 := by
  have hquote : Text.Hex.value? 34 = none := by decide
  have hback : Text.Hex.value? 92 = none := by decide
  constructor
  · rintro rfl
    rw [hquote] at h
    cases h
  · rintro rfl
    rw [hback] at h
    cases h

theorem quiet_of_unit? {a b c d : UInt8} {unit : ℕ} (h : Literal.unit? a b c d = some unit) :
    IsQuiet [a, b, c, d] := by
  simp only [Literal.unit?, Option.bind_eq_bind, Option.bind_eq_some_iff] at h
  obtain ⟨_, ha, _, hb, _, hc, _, hd, -⟩ := h
  intro byte hbyte
  simp only [List.mem_cons, List.not_mem_nil, or_false] at hbyte
  rcases hbyte with rfl | rfl | rfl | rfl
  · exact ne_of_hex ha
  · exact ne_of_hex hb
  · exact ne_of_hex hc
  · exact ne_of_hex hd

/-- Inside a string the scan passes over what may stand there. -/
theorem IsRaw.scan {raw : Bytes} (h : IsRaw raw) (rest : Bytes) :
    scan true (raw ++ rest) = Json.scan true rest := by
  induction h with
  | nil => rfl
  | plain hbyte _ ih => rw [List.cons_append, scan_cons hbyte.2, ih]
  | escape _ _ ih => exact ih
  | @unicode a b c d unit rest' hunit _ ih =>
      have hquiet := (quiet_of_unit? hunit).scan_append true (rest' ++ rest)
      exact hquiet.trans ih

theorem quiet_of_digits {digits : Bytes} (h : IsDigits digits) : IsQuiet digits := by
  intro byte hbyte
  have hdigit := List.all_eq_true.mp h.2 byte hbyte
  constructor <;> rintro rfl <;> exact absurd hdigit (by decide)

/-- There are no marks in numbers. -/
theorem IsNumber.quiet {token : Bytes} (h : IsNumber token) : IsQuiet token := by
  obtain @⟨sign, whole, fraction, exponent, hsign, hwhole, hfraction, hexponent⟩ := h
  have hquiet {sign : Bytes} (hsign : sign = [] ∨ sign = [43] ∨ sign = [45]) : IsQuiet sign := by
    rcases hsign with rfl | rfl | rfl
    · exact nofun
    · exact List.forall_mem_singleton.mpr (by decide)
    · exact List.forall_mem_singleton.mpr (by decide)
  refine List.forall_mem_append.mpr ⟨hquiet (hsign.imp_right Or.inr), List.forall_mem_append.mpr
    ⟨quiet_of_digits hwhole.1, List.forall_mem_append.mpr ⟨?_, ?_⟩⟩⟩
  · rcases hfraction with rfl | ⟨digits, hdigits, rfl⟩
    · exact nofun
    · exact List.forall_mem_cons.mpr ⟨by decide, quiet_of_digits hdigits⟩
  · rcases hexponent with rfl | ⟨mark, sign, digits, hmark, hsign, hdigits, rfl⟩
    · exact nofun
    · refine List.forall_mem_cons.mpr ⟨?_, List.forall_mem_append.mpr
        ⟨hquiet hsign, quiet_of_digits hdigits⟩⟩
      rcases hmark with rfl | rfl <;> decide

theorem scan_scalar {text rest : Bytes} {tree : Json} (h : scalar text = (tree, some rest)) :
    scan false text = scan false rest := by
  unfold scalar at h
  split at h
  · cases h
    rfl
  · cases h
    rfl
  · cases h
    rfl
  · split at h
    · next inner raw rest' hsplit =>
      cases h
      obtain ⟨hraw, rfl⟩ := split?_cut hsplit
      rw [scan_quote, Bool.not_false, hraw.scan, scan_quote]
      rfl
    · cases h
  · split at h
    · next token rest' hnumber =>
      cases h
      obtain ⟨htoken, rfl⟩ := number?_cut hnumber
      exact htoken.quiet.scan_append false _
    · cases h

/-! ### Values -/

mutual

/-- **Whatever is read starts and ends outside of strings**, where no word is expected. -/
theorem scan_value {fuel : ℕ} {shape : Shape} (hshape : shape.Wordless) {text rest : Bytes}
    {tree : Json} (h : value fuel shape text = (tree, some rest)) :
    scan false text = scan false rest := by
  cases fuel with
  | zero => cases h
  | succ fuel =>
      have hread := h
      rw [value] at hread
      split at hread
      · next inner hbracket =>
        rw [← value_skipBlanks, hbracket, value_array_iff] at h
        rw [scan_of_skipBlanks hbracket (by decide)]
        rcases h with ⟨hend, -⟩ | ⟨-, found, hfound, -⟩
        · exact scan_of_skipBlanks hend (by decide)
        · exact scan_items hshape hfound
      · next inner hbrace =>
        rw [← value_skipBlanks, hbrace, value_object_iff] at h
        rw [scan_of_skipBlanks hbrace (by decide)]
        rcases h with ⟨hend, -⟩ | ⟨-, found, hfound, -⟩
        · exact scan_of_skipBlanks hend (by decide)
        · exact scan_members (fun m _ => hshape.member _) hfound
      · rw [← scan_skipBlanks]
        exact scan_scalar hread

theorem scan_items {fuel : ℕ} {shape : Shape} (hshape : shape.Wordless) {text rest : Bytes}
    {found : List Json} (h : items fuel shape text = (found, some rest)) :
    scan false text = scan false rest := by
  cases fuel with
  | zero => cases h
  | succ fuel =>
      obtain ⟨item, behind, hitem, hend⟩ := items_iff.mp h
      rw [scan_value hshape.item hitem]
      rcases hend with ⟨hbracket, -⟩ | ⟨next, hcomma, hend⟩
      · exact scan_of_skipBlanks hbracket (by decide)
      · rw [scan_of_skipBlanks hcomma (by decide)]
        rcases hend with ⟨hbracket, -⟩ | ⟨-, ⟨hfull, -⟩ | ⟨-, others, hothers, -⟩⟩
        · exact scan_of_skipBlanks hbracket (by decide)
        · exact absurd (hshape.afterItem.isFull.symm.trans hfull) Bool.false_ne_true
        · rw [← scan_skipBlanks]
          exact scan_items hshape.afterItem hothers

theorem scan_members {fuel : ℕ} {shape : Shape} {text rest : Bytes} {found : List (Bytes × Json)}
    (hshape : ∀ m ∈ found, (shape.member (Literal.string? m.1)).Wordless)
    (h : members fuel shape text = (found, some rest)) : scan false text = scan false rest := by
  cases fuel with
  | zero => cases h
  | succ fuel =>
      obtain ⟨inner, key, behind, next, item, rest', hquote, hsplit, hcolon, hitem, hend⟩ :=
        members_iff.mp h
      obtain ⟨hraw, rfl⟩ := split?_cut hsplit
      have hkey : scan false text = scan false next := by
        rw [← scan_skipBlanks, hquote, scan_quote, Bool.not_false, hraw.scan, scan_quote]
        exact scan_of_skipBlanks hcolon (by decide)
      have hfirst : (key, item) ∈ found := by
        rcases hend with ⟨-, rfl⟩ | ⟨_, _, -, -, rfl⟩
        · exact List.mem_cons_self
        · exact List.mem_cons_self
      rw [hkey, scan_value (hshape _ hfirst) hitem]
      rcases hend with ⟨hbrace, -⟩ | ⟨next', others, hcomma, hothers, rfl⟩
      · exact scan_of_skipBlanks hbrace (by decide)
      · rw [scan_of_skipBlanks hcomma (by decide)]
        exact scan_members (fun m hm => hshape m (List.mem_cons_of_mem _ hm)) hothers

end

/-- **Texts of the format start and end outside of strings**, the items of an array and the members
of an object with the bracket or brace behind them. -/
theorem LaidItems.scan {found : List Json} {inner : Bytes} (h : LaidItems found inner)
    (rest : Bytes) : scan false (inner ++ 93 :: rest) = Json.scan false rest :=
  scan_items .any (h.items_eq .any (Nat.lt_succ_self _) rest)

theorem LaidMembers.scan {found : List (Bytes × Json)} {inner : Bytes}
    (h : LaidMembers found inner) (rest : Bytes) :
    scan false (inner ++ 125 :: rest) = Json.scan false rest :=
  have hany (m : Bytes × Json) (_ : m ∈ found) :
      (Shape.any.member (Literal.string? m.1)).Wordless := .any
  scan_members hany (h.members_eq hany (Nat.lt_succ_self _) rest)

end RollupWallet.Json
