import Mathlib
import RollupWallet.Name
import RollupWallet.Proofs.Text.Utf8

/-!
# Names that have a hash

A name is cut at the byte of its full stop, while whoever writes a name sees characters.  The two
cuts are the same because that byte stands in the UTF-8 form of no other character
(`separator_mem_utf8_iff`): the other characters below 128 are other bytes, and what stands in the
form of a character above is 128 or more.  So the names that have a hash are those of two parts
around a single full stop, neither of them empty (`exists_nameHash_iff`), whatever else the parts
hold.
-/

namespace RollupWallet

open Text

/-- Two parts around the only full stop, neither of them empty. -/
def IsDotted (name : String) : Prop :=
  ∃ label base : String, label ≠ "" ∧ base ≠ "" ∧ '.' ∉ label.toList ∧ '.' ∉ base.toList ∧
    name = label ++ "." ++ base

/-! ### Bytes -/

namespace AccountName

/-- **The parts of a name are the bytes before and behind its only separator.** -/
theorem ofBytes?_eq_some_iff {text : Bytes} {name : AccountName} :
    ofBytes? text = some name ↔ name.label ≠ [] ∧ name.base ≠ [] ∧ separator ∉ name.label ∧
      separator ∉ name.base ∧ text = name.label ++ separator :: name.base := by
  constructor
  · intro h
    unfold ofBytes? at h
    have hjoin := List.takeWhile_append_dropWhile (p := (· ≠ separator)) (l := text)
    have hhead := List.head?_dropWhile_not (· ≠ separator) text
    have hlabel : separator ∉ text.takeWhile (· ≠ separator) := by
      intro hmem
      exact absurd (List.mem_takeWhile_imp hmem) (by decide)
    cases hdrop : text.dropWhile (· ≠ separator) with
    | nil =>
        simp only [hdrop] at h
        cases h
    | cons byte base =>
        simp only [hdrop] at h hjoin hhead
        split at h
        · cases h
        · next hparts =>
          cases h
          obtain ⟨hlabelNe, hbaseNe, hbase⟩ := not_or.mp hparts |>.imp_right not_or.mp
          have hbyte : byte = separator := not_not.mp (of_decide_eq_false hhead)
          rw [hbyte] at hjoin
          exact ⟨hlabelNe, hbaseNe, hlabel, hbase, hjoin.symm⟩
  · obtain ⟨label, base⟩ := name
    rintro ⟨hlabelNe, hbaseNe, hlabel, hbase, rfl⟩
    have hbefore : ∀ byte ∈ label, decide (byte ≠ separator) = true := fun byte hbyte =>
      decide_eq_true fun heq => hlabel (heq ▸ hbyte)
    have htake : (label ++ separator :: base).takeWhile (· ≠ separator) = label := by
      rw [List.takeWhile_append_of_pos hbefore]
      simp
    have hdrop : (label ++ separator :: base).dropWhile (· ≠ separator) = separator :: base := by
      rw [List.dropWhile_append_of_pos hbefore]
      simp
    unfold ofBytes?
    simp only [htake, hdrop]
    exact if_neg (not_or.mpr ⟨hlabelNe, not_or.mpr ⟨hbaseNe, hbase⟩⟩)

end AccountName

/-! ### Characters -/

/-- The byte of the full stop stands in the form of no other character. -/
theorem separator_mem_utf8EncodeChar_iff (c : Char) :
    AccountName.separator ∈ String.utf8EncodeChar c ↔ c = '.' := by
  constructor
  · intro h
    rcases Nat.lt_or_ge c.toNat 128 with hlow | hhigh
    · rw [utf8EncodeChar_ascii hlow, List.mem_singleton] at h
      have hcode := congrArg UInt8.toNat h
      rw [UInt8.toNat_ofNat', Nat.mod_eq_of_lt (by omega)] at hcode
      exact Char.toNat_inj.mp hcode.symm
    · exact absurd (le_of_mem_utf8EncodeChar hhigh h) (by decide)
  · rintro rfl
    decide

theorem separator_mem_utf8_iff (s : String) : AccountName.separator ∈ utf8 s ↔ '.' ∈ s.toList := by
  rw [← String.ofList_toList (s := s), utf8_ofList, String.ofList_toList, List.mem_flatMap]
  constructor
  · rintro ⟨c, hc, hbyte⟩
    rwa [← (separator_mem_utf8EncodeChar_iff c).mp hbyte]
  · intro h
    exact ⟨'.', h, (separator_mem_utf8EncodeChar_iff '.').mpr rfl⟩

theorem utf8_eq_nil_iff (s : String) : utf8 s = [] ↔ s = "" :=
  utf8_injective.eq_iff' rfl

theorem utf8_dotted (label base : String) :
    utf8 (label ++ "." ++ base) = utf8 label ++ AccountName.separator :: utf8 base := by
  rw [utf8_append, utf8_append, List.append_assoc]
  rfl

/-- **The names that have a hash.** -/
theorem exists_nameHash_iff (name : String) :
    (∃ hash, nameHash name = .ok hash) ↔ IsDotted name := by
  constructor
  · rintro ⟨hash, hhash⟩
    unfold nameHash at hhash
    split at hhash
    · next parts hparts =>
      obtain ⟨hlabelNe, hbaseNe, hlabel, hbase, htext⟩ := AccountName.ofBytes?_eq_some_iff.mp hparts
      have hdot : '.' ∈ name.toList := by
        rw [← separator_mem_utf8_iff, htext]
        exact List.mem_append_right _ List.mem_cons_self
      obtain ⟨label, base, hname, -⟩ := List.eq_append_cons_of_mem hdot
      have hcut : name = String.ofList label ++ "." ++ String.ofList base := by
        apply String.toList_inj.mp
        rw [hname]
        simp
      -- the bytes have only one separator, so the cut of the characters is that of the bytes
      rw [hcut, utf8_dotted] at htext
      obtain ⟨hl, -, hb⟩ := (List.append_cons_inj_of_notMem hlabel hbase).mp htext.symm
      rw [hl, Ne, utf8_eq_nil_iff] at hlabelNe
      rw [hb, Ne, utf8_eq_nil_iff] at hbaseNe
      rw [hl, separator_mem_utf8_iff] at hlabel
      rw [hb, separator_mem_utf8_iff] at hbase
      exact ⟨_, _, hlabelNe, hbaseNe, hlabel, hbase, hcut⟩
    · cases hhash
  · rintro ⟨label, base, hlabelNe, hbaseNe, hlabel, hbase, rfl⟩
    have hparts : AccountName.ofBytes? (utf8 (label ++ "." ++ base)) =
        some ⟨utf8 label, utf8 base⟩ := by
      refine AccountName.ofBytes?_eq_some_iff.mpr ⟨?_, ?_, ?_, ?_, utf8_dotted label base⟩
      · rwa [Ne, utf8_eq_nil_iff]
      · rwa [Ne, utf8_eq_nil_iff]
      · rwa [separator_mem_utf8_iff]
      · rwa [separator_mem_utf8_iff]
    rw [nameHash, hparts]
    exact ⟨_, rfl⟩

end RollupWallet
