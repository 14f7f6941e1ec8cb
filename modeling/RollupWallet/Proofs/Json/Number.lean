import Mathlib
import RollupWallet.Proofs.Error
import RollupWallet.Proofs.Json.Codec
import RollupWallet.Proofs.Text.Decimal

/-!
# The numbers of a tree

An integer is read off the digits of a number, and digits with zeros or a plus sign in front would
be read as well.  In the tree of a text there are none: a number is cut from a text only without
them (`IsToken`), and with a fraction or an exponent it has more than digits.  So an integer is read
from one number only, the one that is written for it (`IsToken.eq_integer`).

For an array of bytes that leaves one list of items: those that are written for the bytes
(`Codec.bytesOfItems_eq_ok_iff`).
-/

namespace RollupWallet.Json

open Text.Decimal (isDigit natural integer integer?)

/-! ### The parts of a number -/

theorem digits?_eq_some {text digits rest : Bytes} (h : digits? text = some (digits, rest)) :
    digits ≠ [] ∧ digits.all isDigit = true := by
  unfold digits? at h
  split at h
  · cases h
  · next hne =>
    obtain ⟨rfl, -⟩ := Prod.mk.inj (Option.some.inj h)
    exact ⟨hne, List.all_takeWhile⟩

/-- The digits before the point are those of a number. -/
theorem whole?_eq_some {text digits rest : Bytes} (h : whole? text = some (digits, rest)) :
    ∃ n, digits = natural n := by
  unfold whole? at h
  split at h
  · cases h
  · next hlead =>
    obtain ⟨hne, hdigits⟩ := digits?_eq_some h
    refine ⟨Text.Decimal.value digits, (Text.Decimal.natural_value hne hdigits ?_).symm⟩
    rintro others rfl
    cases others with
    | nil => rfl
    | cons digit others => exact absurd h (hlead digit others rest)

/-- What follows the digits of a number: nothing, or something that starts with no digit. -/
def IsTail (tail : Bytes) : Prop :=
  tail = [] ∨ ∃ mark others, tail = mark :: others ∧ isDigit mark = false

theorem fraction?_eq_some {text fraction rest : Bytes}
    (h : fraction? text = some (fraction, rest)) : IsTail fraction := by
  unfold fraction? at h
  split at h
  · obtain ⟨found, -, hfound⟩ := Option.map_eq_some_iff.mp h
    obtain ⟨rfl, -⟩ := Prod.mk.inj hfound
    exact Or.inr ⟨46, found.1, rfl, rfl⟩
  · obtain ⟨rfl, -⟩ := Prod.mk.inj (Option.some.inj h)
    exact Or.inl rfl

theorem exponent?_eq_some {text exponent rest : Bytes}
    (h : exponent? text = some (exponent, rest)) : IsTail exponent := by
  unfold exponent? at h
  split at h
  · obtain ⟨rfl, -⟩ := Prod.mk.inj (Option.some.inj h)
    exact Or.inl rfl
  · next mark tail =>
    split_ifs at h with hmark
    · have hdigit : isDigit mark = false := by
        rcases hmark with rfl | rfl
        · rfl
        · rfl
      split at h
      · cases h
      · next sign tail =>
        -- with a sign and without one the exponent starts with the same mark
        split_ifs at h
        all_goals
          obtain ⟨found, -, hfound⟩ := Option.map_eq_some_iff.mp h
          obtain ⟨rfl, -⟩ := Prod.mk.inj hfound
          exact Or.inr ⟨mark, _, rfl, hdigit⟩
    · obtain ⟨rfl, -⟩ := Prod.mk.inj (Option.some.inj h)
      exact Or.inl rfl

/-- What is cut off without a sign has the digits of a number in front. -/
theorem magnitude?_eq_some {text token rest : Bytes} (h : magnitude? text = some (token, rest)) :
    ∃ n tail, token = natural n ++ tail ∧ IsTail tail := by
  unfold magnitude? at h
  simp only [Option.bind_eq_bind, Option.bind_eq_some_iff, Prod.exists] at h
  obtain ⟨whole, _, hwhole, fraction, _, hfraction, exponent, _, hexponent, h⟩ := h
  obtain ⟨rfl, -⟩ := Prod.mk.inj (Option.some.inj h)
  obtain ⟨n, rfl⟩ := whole?_eq_some hwhole
  refine ⟨n, fraction ++ exponent, List.append_assoc _ _ _, ?_⟩
  rcases fraction?_eq_some hfraction with rfl | ⟨mark, others, rfl, hmark⟩
  · exact exponent?_eq_some hexponent
  · exact Or.inr ⟨mark, others ++ exponent, rfl, hmark⟩

/-! ### Numbers as they are cut from a text -/

/-- A number that is cut from a text. -/
def IsToken (token : Bytes) : Prop := ∃ text rest, number? text = some (token, rest)

/-- If a number is read as a natural one, its digits are all there is. -/
theorem IsTail.eq_nil {n m : ℕ} {tail : Bytes} (h : IsTail tail)
    (hread : Text.Decimal.natural? (natural n ++ tail) = some m) : tail = [] := by
  rcases h with rfl | ⟨mark, others, rfl, hmark⟩
  · rfl
  · have hdigits := (Text.Decimal.natural?_eq_some_iff.mp hread).2.1
    have hdigit := List.all_eq_true.mp hdigits mark (List.mem_append_right _ List.mem_cons_self)
    exact absurd hdigit (by rw [hmark]; exact Bool.false_ne_true)

/-- A number without sign starts with a digit. -/
theorem natural_append_ne_cons {n : ℕ} {tail others : Bytes} {byte : UInt8}
    (h : isDigit byte = false) : natural n ++ tail ≠ byte :: others := by
  obtain ⟨first, digits, hdigits⟩ := List.exists_cons_of_ne_nil (Text.Decimal.natural_ne_nil n)
  rw [hdigits, List.cons_append]
  intro heq
  have hfirst : isDigit first = true :=
    Text.Decimal.isDigit_of_mem_natural (hdigits ▸ List.mem_cons_self)
  rw [(List.cons.inj heq).1, h] at hfirst
  cases hfirst

/-- **An integer is read only from the number that is written for it.** -/
theorem IsToken.eq_integer {token : Bytes} {n : ℤ} (h : IsToken token) (hzero : token ≠ [45, 48])
    (hread : integer? token = some n) : token = integer n := by
  suffices hform : ∃ m, token = integer m by
    obtain ⟨m, rfl⟩ := hform
    rw [Text.Decimal.integer?_integer, Option.some.injEq] at hread
    rw [hread]
  obtain ⟨text, rest, hnumber⟩ := h
  unfold number? at hnumber
  split at hnumber
  · next text =>
    obtain ⟨found, hfound, htoken⟩ := Option.map_eq_some_iff.mp hnumber
    obtain ⟨rfl, -⟩ := Prod.mk.inj htoken
    obtain ⟨m, tail, hform, htail⟩ := magnitude?_eq_some hfound
    obtain ⟨k, hk, -⟩ := Option.map_eq_some_iff.mp hread
    rw [hform] at hk
    obtain rfl := htail.eq_nil hk
    rw [List.append_nil] at hform
    rw [hform] at hzero ⊢
    -- the zero with a sign is no integer
    cases m with
    | zero => exact absurd rfl hzero
    | succ m => exact ⟨Int.negSucc m, (Text.Decimal.integer_negSucc m).symm⟩
  · obtain ⟨m, tail, rfl, htail⟩ := magnitude?_eq_some hnumber
    unfold integer? at hread
    split at hread
    · next heq => exact absurd heq (natural_append_ne_cons rfl)
    · next heq => exact absurd heq (natural_append_ne_cons rfl)
    · obtain ⟨k, hk, -⟩ := Option.map_eq_some_iff.mp hread
      obtain rfl := htail.eq_nil hk
      exact ⟨Int.ofNat m, List.append_nil _⟩

/-! ### The trees of texts -/

theorem isToken_of_scalar {text token : Bytes} (h : (scalar text).1 = .number token) :
    IsToken token := by
  unfold scalar at h
  split at h
  · cases h
  · cases h
  · cases h
  · split at h <;> cases h
  · split at h
    · next text found rest hnumber =>
      cases h
      exact ⟨_, _, hnumber⟩
    · cases h

theorem scalar_ne_array {text own : Bytes} {found : List Json} :
    (scalar text).1 ≠ .array own found := by
  intro h
  unfold scalar at h
  split at h
  · cases h
  · cases h
  · cases h
  · split at h <;> cases h
  · split at h <;> cases h

theorem isToken_of_value {fuel : ℕ} {shape : Shape} {text token : Bytes}
    (h : (value fuel shape text).1 = .number token) : IsToken token := by
  cases fuel with
  | zero => cases h
  | succ fuel =>
      rw [value] at h
      split at h
      · split at h <;> cases h
      · split at h <;> cases h
      · exact isToken_of_scalar h

/-- The items of an array are its first value and what comes behind it: nothing, a mark that the text
is flawed, or further items. -/
theorem items_succ (fuel : ℕ) (shape : Shape) (text : Bytes) :
    ∃ others, (items (fuel + 1) shape text).1 = (value fuel shape.item text).1 :: others ∧
      (others = [] ∨ others = [.gap] ∨ others = [.fault] ∨
        ∃ shape text, others = (items fuel shape text).1) := by
  rw [items]
  simp only
  split
  · exact ⟨[], rfl, Or.inl rfl⟩
  · split
    · split
      · exact ⟨[.gap], rfl, Or.inr (Or.inl rfl)⟩
      · split_ifs
        · split
          · exact ⟨[.gap], rfl, Or.inr (Or.inl rfl)⟩
          · exact ⟨[.fault], rfl, Or.inr (Or.inr (Or.inl rfl))⟩
        · exact ⟨_, rfl, Or.inr (Or.inr (Or.inr ⟨_, _, rfl⟩))⟩
    · exact ⟨[], rfl, Or.inl rfl⟩
    · exact ⟨[.fault], rfl, Or.inr (Or.inr (Or.inl rfl))⟩

/-- The numbers among the items of an array are cut from its text. -/
theorem isToken_of_mem_items {fuel : ℕ} {shape : Shape} {text token : Bytes}
    (h : .number token ∈ (items fuel shape text).1) : IsToken token := by
  induction fuel generalizing shape text with
  | zero => cases List.mem_singleton.mp h
  | succ fuel ih =>
      obtain ⟨others, heq, hothers⟩ := items_succ fuel shape text
      rw [heq, List.mem_cons] at h
      rcases h with hfirst | h
      · exact isToken_of_value hfirst.symm
      · rcases hothers with rfl | rfl | rfl | ⟨shape', text', rfl⟩
        · cases h
        · cases List.mem_singleton.mp h
        · cases List.mem_singleton.mp h
        · exact ih h

theorem isToken_of_mem_value {fuel : ℕ} {shape : Shape} {text own token : Bytes}
    {found : List Json} (h : (value fuel shape text).1 = .array own found)
    (hmem : .number token ∈ found) : IsToken token := by
  cases fuel with
  | zero => cases h
  | succ fuel =>
      rw [value] at h
      split at h
      · split at h
        · cases h
          cases hmem
        · cases h
          exact isToken_of_mem_items hmem
      · split at h <;> cases h
      · exact absurd h scalar_ne_array

/-! ### Bytes -/

namespace Codec

theorem eq_write_of_read_integer {item : Json} {n : ℤ}
    (htoken : ∀ token, item = .number token → IsToken token) (h : integer.read item = .ok n) :
    item = integer.write n := by
  cases item with
  | number token =>
      by_cases hzero : token = [45, 48]
      · simp only [integer, if_pos hzero] at h
        cases h
      · simp only [integer, if_neg hzero] at h
        split at h
        · next m hread =>
          cases h
          exact congrArg Json.number ((htoken token rfl).eq_integer hzero hread)
        · cases h
  | _ => cases h

/-- **A byte is read only from the number that is written for it.** -/
theorem eq_write_of_read_byte {item : Json} {b : UInt8}
    (htoken : ∀ token, item = .number token → IsToken token) (h : byte.read item = .ok b) :
    item = byte.write b := by
  obtain ⟨m, hbelow, rfl⟩ := map_eq_ok.mp h
  obtain ⟨n, hread, hrange⟩ := bind_eq_ok.mp hbelow
  by_cases hn : 0 ≤ n ∧ n < (256 : ℕ)
  · rw [if_pos hn] at hrange
    have hm : (UInt8.ofNat m).toNat = m := by
      rw [← Except.ok.inj hrange]
      exact UInt8.toNat_ofNat_of_lt' (by show _ < 256; omega)
    show item = integer.write (Int.ofNat (UInt8.ofNat m).toNat)
    rw [eq_write_of_read_integer htoken hread, hm, ← Except.ok.inj hrange]
    exact congrArg integer.write (Int.toNat_of_nonneg hn.1).symm
  · rw [if_neg hn] at hrange
    cases hrange

theorem failsWith_read_integer (item : Json) : FailsWith (· = .malformed) (integer.read item) := by
  unfold integer
  cases item with
  | number token =>
      simp only
      split_ifs
      · exact FailsWith.error_iff.mpr rfl
      · split
        · exact FailsWith.of_ok _
        · exact FailsWith.error_iff.mpr rfl
  | _ => exact FailsWith.error_iff.mpr rfl

theorem failsWith_read_byte (item : Json) : FailsWith (· = .malformed) (byte.read item) :=
  .map ((failsWith_read_integer item).bind fun _ => .ite rfl)

/-- **Items are read as bytes exactly if they are the numbers that are written for them.** -/
theorem bytesOfItems_eq_ok_iff {found : List Json} {bytes : Bytes}
    (htoken : ∀ token, .number token ∈ found → IsToken token) :
    bytesOfItems found = .ok bytes ↔ found = bytes.map byte.write := by
  rw [bytesOfItems]
  induction found generalizing bytes with
  | nil =>
      rw [List.mapM_nil]
      constructor
      · intro h
        rw [← Except.ok.inj h]
        rfl
      · intro h
        rw [List.map_eq_nil_iff.mp h.symm]
        rfl
  | cons item found ih =>
      have hitem : ∀ token, item = .number token → IsToken token :=
        fun token heq => htoken token (heq ▸ List.mem_cons_self)
      have hfound : ∀ token, .number token ∈ found → IsToken token :=
        fun token hmem => htoken token (List.mem_cons_of_mem _ hmem)
      rw [List.mapM_cons]
      constructor
      · intro h
        obtain ⟨b, hb, h⟩ := bind_eq_ok.mp h
        obtain ⟨others, hothers, h⟩ := bind_eq_ok.mp h
        rw [← Except.ok.inj h, List.map_cons, ← eq_write_of_read_byte hitem hb,
          ← (ih hfound).mp hothers]
      · intro h
        cases bytes with
        | nil => cases h
        | cons b bytes =>
            obtain ⟨rfl, hothers⟩ := List.cons.inj h
            rw [(Lawful.keeps b).read_write, ok_bind, (ih hfound).mpr hothers]
            rfl

theorem failsWith_bytesOfItems (found : List Json) :
    FailsWith (· = .malformed) (bytesOfItems found) :=
  .mapM fun item _ => failsWith_read_byte item

end Codec

end RollupWallet.Json
