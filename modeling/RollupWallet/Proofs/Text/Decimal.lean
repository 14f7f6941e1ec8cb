import Mathlib
import RollupWallet.Proofs.Text.Ascii
import RollupWallet.Text.Decimal

/-!
# Numbers in decimal text

The digits of a number are those of its tenth part and one more (`natural_of_base_le`), and every
fact about them is an induction along that equation (`natural_induct`): there is a digit, all of
them are digits, the first is zero only for zero, and they are read as the number
(`natural?_natural`, `integer?_integer`).

The lenient form takes more than digits.  What it takes is said apart from the reader (`Marks`), and
the reader takes that and nothing else (`lenient?_eq_some_iff`).
-/

namespace RollupWallet.Text.Decimal

theorem natural_eq_map (n : ℕ) :
    natural n = (Nat.toDigits 10 n).map fun c => UInt8.ofNat c.toNat := by
  have hascii : ∀ c ∈ Nat.toDigits 10 n, c.toNat < 128 := by
    intro c hc
    have hdigit := Nat.isDigit_of_mem_toDigits (by decide) (by decide) hc
    rw [Char.isDigit, Bool.and_eq_true, decide_eq_true_eq, decide_eq_true_eq] at hdigit
    exact lt_of_le_of_lt (UInt32.le_iff_toNat_le.mp hdigit.2) (by decide)
  rw [natural, Nat.toString_eq_ofList_toDigits, utf8_ofList_ascii hascii]

theorem natural_of_lt {n : ℕ} (h : n < 10) : natural n = [UInt8.ofNat (48 + n)] := by
  rw [natural_eq_map, Nat.toDigits_of_lt_base h, List.map_singleton,
    Nat.toNat_digitChar_of_lt_ten h]

theorem natural_of_base_le {n : ℕ} (h : 10 ≤ n) :
    natural n = natural (n / 10) ++ [UInt8.ofNat (48 + n % 10)] := by
  have hmod : n % 10 < 10 := Nat.mod_lt n (by decide)
  rw [natural_eq_map, natural_eq_map, Nat.toDigits_of_base_le (by decide) h, List.map_append,
    List.map_singleton, Nat.toNat_digitChar_of_lt_ten hmod]

/-- A property of digits holds if it holds of one digit and is kept when a digit is added behind
those of a positive number. -/
theorem natural_induct {P : ℕ → Bytes → Prop} (hdigit : ∀ d < 10, P d [UInt8.ofNat (48 + d)])
    (hstep : ∀ n digits, ∀ d < 10, 0 < n → P n digits →
      P (10 * n + d) (digits ++ [UInt8.ofNat (48 + d)])) (n : ℕ) : P n (natural n) := by
  induction n using Nat.strong_induction_on with
  | _ n ih =>
      -- the digits behind the first are split off from the end
      by_cases h : n < 10
      · rw [natural_of_lt h]
        exact hdigit n h
      · have hle : 10 ≤ n := Nat.le_of_not_lt h
        have hprev := ih (n / 10) (by omega)
        have hnext := hstep _ _ (n % 10) (Nat.mod_lt n (by decide)) (by omega) hprev
        rw [Nat.div_add_mod] at hnext
        rw [natural_of_base_le hle]
        exact hnext

/-! ### The bytes of a number -/

theorem isDigit_ofNat : ∀ d < 10, isDigit (UInt8.ofNat (48 + d)) = true := by decide

theorem toNat_ofNat_digit : ∀ d < 10, (UInt8.ofNat (48 + d)).toNat - 48 = d := by decide

theorem natural_ne_nil (n : ℕ) : natural n ≠ [] := by
  refine natural_induct (P := fun _ digits => digits ≠ []) ?_ ?_ n
  · intro d _
    exact List.cons_ne_nil _ _
  · intro n digits d _ _ _
    exact List.append_ne_nil_of_right_ne_nil _ (List.cons_ne_nil _ _)

/-- The bytes of a number are digits. -/
theorem all_isDigit_natural (n : ℕ) : (natural n).all isDigit = true := by
  refine natural_induct (P := fun _ digits => digits.all isDigit = true) ?_ ?_ n
  · intro d hd
    rw [List.all_cons, isDigit_ofNat d hd]
    rfl
  · intro n digits d hd _ hdigits
    rw [List.all_append, hdigits, List.all_cons, isDigit_ofNat d hd]
    rfl

theorem isDigit_of_mem_natural {n : ℕ} {byte : UInt8} (h : byte ∈ natural n) :
    isDigit byte = true :=
  List.all_eq_true.mp (all_isDigit_natural n) byte h

/-- The digits of a positive number do not start with zero. -/
theorem natural_leading (n : ℕ) :
    (n = 0 ∧ natural n = [48]) ∨ (0 < n ∧ ∃ first rest, natural n = first :: rest ∧ first ≠ 48) := by
  refine natural_induct (P := fun n digits =>
    (n = 0 ∧ digits = [48]) ∨ (0 < n ∧ ∃ first rest, digits = first :: rest ∧ first ≠ 48)) ?_ ?_ n
  · intro d hd
    rcases Nat.eq_zero_or_pos d with rfl | hpos
    · exact Or.inl ⟨rfl, rfl⟩
    · have hne : ∀ d < 10, 0 < d → UInt8.ofNat (48 + d) ≠ 48 := by decide
      exact Or.inr ⟨hpos, _, [], rfl, hne d hd hpos⟩
  · intro n digits d _ hn hdigits
    rcases hdigits with ⟨hzero, _⟩ | ⟨_, first, rest, rfl, hfirst⟩
    · omega
    · exact Or.inr ⟨by omega, first, _, rfl, hfirst⟩

/-- The first digit is zero only if it is alone. -/
theorem natural_leading_zero {n : ℕ} {digits : Bytes} (h : natural n = 48 :: digits) :
    digits = [] := by
  rcases natural_leading n with ⟨_, hzero⟩ | ⟨_, first, rest, hlead, hfirst⟩
  · rw [hzero] at h
    exact (List.cons.inj h).2.symm
  · rw [hlead] at h
    exact absurd (List.cons.inj h).1 hfirst

/-- A larger number has at least as many digits. -/
theorem length_natural_le {m n : ℕ} (hle : m ≤ n) : (natural m).length ≤ (natural n).length := by
  induction n using Nat.strong_induction_on generalizing m with
  | _ n ih =>
      by_cases hn : n < 10
      · have hm : m < 10 := lt_of_le_of_lt hle hn
        rw [natural_of_lt hn, natural_of_lt hm, List.length_singleton, List.length_singleton]
      · have hten : 10 ≤ n := Nat.le_of_not_lt hn
        by_cases hm : m < 10
        · rw [natural_of_lt hm, List.length_singleton]
          exact List.length_pos_of_ne_nil (natural_ne_nil n)
        · have hprev := ih (n / 10) (by omega) (Nat.div_le_div_right (c := 10) hle)
          rw [natural_of_base_le hten, natural_of_base_le (Nat.le_of_not_lt hm),
            List.length_append, List.length_append, List.length_singleton, List.length_singleton]
          exact Nat.add_le_add_right hprev 1

/-! ### Reading -/

theorem value_natural (n : ℕ) : value (natural n) = n := by
  refine natural_induct (P := fun n digits => value digits = n) ?_ ?_ n
  · intro d hd
    show 0 * 10 + ((UInt8.ofNat (48 + d)).toNat - 48) = d
    rw [toNat_ofNat_digit d hd, Nat.zero_mul, Nat.zero_add]
  · intro n digits d hd _ hdigits
    rw [value] at hdigits
    rw [value, List.foldl_append, hdigits]
    show n * 10 + ((UInt8.ofNat (48 + d)).toNat - 48) = 10 * n + d
    rw [toNat_ofNat_digit d hd, Nat.mul_comm]

/-- **The digits of a number are read as that number.** -/
@[simp] theorem natural?_natural (n : ℕ) : natural? (natural n) = some n := by
  rw [natural?, if_pos ⟨natural_ne_nil n, all_isDigit_natural n⟩, value_natural]

theorem value_append_singleton (digits : Bytes) (digit : UInt8) :
    value (digits ++ [digit]) = value digits * 10 + (digit.toNat - 48) := by
  rw [value, List.foldl_append, ← value, List.foldl_cons, List.foldl_nil]

/-- A digit is that of its number. -/
theorem ofNat_of_isDigit {byte : UInt8} (h : isDigit byte = true) :
    byte.toNat - 48 < 10 ∧ UInt8.ofNat (48 + (byte.toNat - 48)) = byte := by
  simp only [isDigit, Bool.and_eq_true, decide_eq_true_eq, UInt8.le_iff_toNat_le] at h
  obtain ⟨hlow, hhigh⟩ := h
  change 48 ≤ byte.toNat at hlow
  change byte.toNat ≤ 57 at hhigh
  refine ⟨by omega, ?_⟩
  rw [Nat.add_sub_cancel' hlow, UInt8.ofNat_toNat]

/-- **Digits are those of the number that they write**, unless there is a zero in front. -/
theorem natural_value {digits : Bytes} (hne : digits ≠ []) (hdigits : digits.all isDigit = true)
    (hlead : ∀ rest, digits = 48 :: rest → rest = []) : natural (value digits) = digits := by
  induction digits using List.reverseRecOn with
  | nil => exact absurd rfl hne
  | append_singleton digits digit ih =>
      rw [List.all_append, Bool.and_eq_true, List.all_cons, List.all_nil, Bool.and_true] at hdigits
      obtain ⟨hlt, hdigit⟩ := ofNat_of_isDigit hdigits.2
      rw [value_append_singleton]
      rcases eq_or_ne digits [] with rfl | hprev
      · rw [value, List.foldl_nil, Nat.zero_mul, Nat.zero_add, natural_of_lt hlt, hdigit]
        rfl
      · -- a zero in front of the last digit would be a zero in front of all of them
        have hnatural : natural (value digits) = digits := by
          refine ih hprev hdigits.1 fun rest hrest => ?_
          have hall := hlead (rest ++ [digit]) (by rw [hrest, List.cons_append])
          exact absurd hall (List.append_ne_nil_of_right_ne_nil _ (List.cons_ne_nil _ _))
        have hpos : value digits ≠ 0 := by
          intro hzero
          rw [hzero, natural_of_lt (by decide)] at hnatural
          have hall := hlead [digit] (by rw [← hnatural]; rfl)
          exact absurd hall (List.cons_ne_nil _ _)
        have hquot : (value digits * 10 + (digit.toNat - 48)) / 10 = value digits := by omega
        have hrest : (value digits * 10 + (digit.toNat - 48)) % 10 = digit.toNat - 48 := by omega
        rw [natural_of_base_le (by omega), hquot, hrest, hnatural, hdigit]

theorem natural?_eq_some_iff {text : Bytes} {n : ℕ} :
    natural? text = some n ↔ text ≠ [] ∧ text.all isDigit = true ∧ value text = n := by
  rw [natural?, Option.ite_none_right_eq_some, Option.some.injEq, and_assoc]

theorem natural_injective : Function.Injective natural := by
  intro m n h
  rw [← Option.some.injEq, ← natural?_natural, h, natural?_natural]

theorem integer_ofNat (n : ℕ) : integer (Int.ofNat n) = natural n := rfl

theorem integer_negSucc (n : ℕ) : integer (Int.negSucc n) = 45 :: natural (n + 1) := by
  have hminus : utf8 "-" = [45] := by decide
  show utf8 ("-" ++ Nat.repr (n + 1)) = _
  rw [utf8_append, hminus]
  rfl

/-- The text of an integer is read as that integer. -/
@[simp] theorem integer?_integer (n : ℤ) : integer? (integer n) = some n := by
  cases n with
  | ofNat n =>
      have hdigit := @isDigit_of_mem_natural n
      rw [integer_ofNat]
      unfold integer?
      split
      · next digits heq =>
        have hplus := hdigit (heq ▸ List.mem_cons_self)
        exact absurd hplus (by decide)
      · next digits heq =>
        have hminus := hdigit (heq ▸ List.mem_cons_self)
        exact absurd hminus (by decide)
      · rw [natural?_natural]
        rfl
  | negSucc n =>
      rw [integer_negSucc]
      show (natural? (natural (n + 1))).map _ = _
      rw [natural?_natural]
      rfl

theorem integer_injective : Function.Injective integer := by
  intro m n h
  rw [← Option.some.injEq, ← integer?_integer, h, integer?_integer]

/-! ### The lenient form -/

/-- A text marks digits in the lenient form: after a plus sign or none come a digit and then digits
and underscores, and the underscores do not count. -/
def Marks (text digits : Bytes) : Prop :=
  ∃ first rest, isDigit first = true ∧ (∀ byte ∈ rest, isDigit byte = true ∨ byte = 95) ∧
    digits = first :: rest.filter (· ≠ 95) ∧ (text = first :: rest ∨ text = 43 :: first :: rest)

theorem stripPlus_cases (text : Bytes) :
    stripPlus text = text ∨ text = 43 :: stripPlus text := by
  unfold stripPlus
  split
  · exact Or.inl rfl
  · exact Or.inr rfl
  · exact Or.inl rfl

theorem isDigit_plus : isDigit 43 = false := by decide

theorem isDigit_underscore : isDigit 95 = false := by decide

/-- What is not a digit is another byte than one. -/
theorem ne_of_isDigit {byte other : UInt8} (h : isDigit byte = true)
    (hother : isDigit other = false) : byte ≠ other := by
  rintro rfl
  exact Bool.false_ne_true (hother.symm.trans h)

theorem stripPlus_of_isDigit {first : UInt8} (h : isDigit first = true) (rest : Bytes) :
    stripPlus (first :: rest) = first :: rest ∧
      stripPlus (43 :: first :: rest) = first :: rest := by
  have hplus := ne_of_isDigit h isDigit_plus
  constructor
  · unfold stripPlus
    split
    · next heq => exact absurd (List.cons.inj heq).1 hplus
    · next heq => exact absurd (List.cons.inj heq).1 hplus
    · rfl
  · unfold stripPlus
    split
    · next heq => exact absurd (List.cons.inj (List.cons.inj heq).2).1 hplus
    · next heq => exact (List.cons.inj heq).2.symm
    · next heq => exact absurd rfl (heq _)

theorem filter_cons_of_ne {first : UInt8} (h : first ≠ 95) (rest : Bytes) :
    (first :: rest).filter (· ≠ 95) = first :: rest.filter (· ≠ 95) :=
  List.filter_cons_of_pos (by simpa using h)

theorem Marks.digits_ne_nil {text digits : Bytes} (h : Marks text digits) : digits ≠ [] := by
  obtain ⟨first, rest, -, -, rfl, -⟩ := h
  exact List.cons_ne_nil _ _

theorem Marks.all_isDigit {text digits : Bytes} (h : Marks text digits) :
    digits.all isDigit = true := by
  obtain ⟨first, rest, hfirst, hrest, rfl, -⟩ := h
  rw [List.all_cons, hfirst, Bool.true_and, List.all_eq_true]
  intro byte hbyte
  obtain ⟨hbyte, hne⟩ := List.mem_filter.mp hbyte
  exact (hrest byte hbyte).resolve_right (of_decide_eq_true hne)

/-- **The lenient reader takes what marks digits, for the number that the digits write.** -/
theorem lenient?_eq_some_iff {text : Bytes} {n : ℕ} :
    lenient? text = some n ↔ ∃ digits, Marks text digits ∧ value digits = n := by
  constructor
  · intro h
    unfold lenient? at h
    split at h
    · cases h
    · cases h
    · next hempty hunderscore =>
      obtain ⟨first, rest, hstrip⟩ := List.exists_cons_of_ne_nil hempty
      have hne : first ≠ 95 := by
        rintro rfl
        exact hunderscore rest hstrip
      rw [hstrip, filter_cons_of_ne hne] at h
      obtain ⟨-, hdigits, hvalue⟩ := natural?_eq_some_iff.mp h
      rw [List.all_cons, Bool.and_eq_true, List.all_eq_true] at hdigits
      refine ⟨_, ⟨first, rest, hdigits.1, fun byte hbyte => ?_, rfl, ?_⟩, hvalue⟩
      · by_cases hbyte95 : byte = 95
        · exact Or.inr hbyte95
        · exact Or.inl (hdigits.2 byte (List.mem_filter.mpr ⟨hbyte, decide_eq_true hbyte95⟩))
      · have hcases := stripPlus_cases text
        rw [hstrip] at hcases
        exact hcases.imp Eq.symm id
  · rintro ⟨digits, hmarks, rfl⟩
    have hread : natural? digits = some (value digits) :=
      natural?_eq_some_iff.mpr ⟨hmarks.digits_ne_nil, hmarks.all_isDigit, rfl⟩
    obtain ⟨first, rest, hfirst, -, rfl, htext⟩ := hmarks
    have hne := ne_of_isDigit hfirst isDigit_underscore
    have hstrip : stripPlus text = first :: rest := by
      rcases htext with rfl | rfl
      · exact (stripPlus_of_isDigit hfirst rest).1
      · exact (stripPlus_of_isDigit hfirst rest).2
    unfold lenient?
    rw [hstrip]
    split
    · next heq => cases heq
    · next heq => exact absurd (List.cons.inj heq).1 hne
    · rw [filter_cons_of_ne hne]
      exact hread

/-- Digits alone mark themselves, and a text without marks is digits alone. -/
theorem natural?_eq_some_iff_of_lenient? {text : Bytes} {n : ℕ} (h : lenient? text = some n) :
    natural? text = some n ↔ 43 ∉ text ∧ 95 ∉ text := by
  constructor
  · intro hread
    have hdigits := List.all_eq_true.mp (natural?_eq_some_iff.mp hread).2.1
    exact ⟨fun hmem => ne_of_isDigit (hdigits _ hmem) isDigit_plus rfl,
      fun hmem => ne_of_isDigit (hdigits _ hmem) isDigit_underscore rfl⟩
  · rintro ⟨hplus, hunderscore⟩
    obtain ⟨digits, hmarks, rfl⟩ := lenient?_eq_some_iff.mp h
    have hread : natural? digits = some (value digits) :=
      natural?_eq_some_iff.mpr ⟨hmarks.digits_ne_nil, hmarks.all_isDigit, rfl⟩
    obtain ⟨first, rest, -, -, rfl, htext⟩ := hmarks
    rcases htext with rfl | rfl
    · have hfilter : rest.filter (· ≠ 95) = rest := by
        refine List.filter_eq_self.mpr fun byte hbyte => decide_eq_true ?_
        rintro rfl
        exact hunderscore (List.mem_cons_of_mem _ hbyte)
      rw [hfilter] at hread ⊢
      exact hread
    · exact absurd List.mem_cons_self hplus

/-- Digits alone are read in the lenient form as well, as the same number. -/
theorem lenient?_of_natural? {text : Bytes} {n : ℕ} (h : natural? text = some n) :
    lenient? text = some n := by
  obtain ⟨hne, hdigits, hvalue⟩ := natural?_eq_some_iff.mp h
  obtain ⟨first, rest, rfl⟩ := List.exists_cons_of_ne_nil hne
  have hall := List.all_eq_true.mp hdigits
  have hfilter : rest.filter (· ≠ 95) = rest := by
    refine List.filter_eq_self.mpr fun byte hbyte => decide_eq_true ?_
    exact ne_of_isDigit (hall byte (List.mem_cons_of_mem _ hbyte)) isDigit_underscore
  refine lenient?_eq_some_iff.mpr ⟨first :: rest, ⟨first, rest, hall first List.mem_cons_self,
    fun byte hbyte => Or.inl (hall byte (List.mem_cons_of_mem _ hbyte)), ?_, Or.inl rfl⟩, hvalue⟩
  rw [hfilter]

end RollupWallet.Text.Decimal
