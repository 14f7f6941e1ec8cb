import Mathlib
import RollupWallet.Layer1.Abi
import RollupWallet.Proofs.Bytes
import RollupWallet.Proofs.Text.Utf8

/-!
# Arguments are read back from their bytes

Every argument has one word, and the words stand in the order of the arguments; behind the words
stand the tails of the arguments that have one (`arguments_eq`).  The word of such an argument is
the place of its tail.

Reading (`read?`) goes along the words and looks up the tails.  The induction is on the arguments
that are left: the data are the words in front, the words left, the tails in front and the tails
left, and the number that the next place is counted from is the number of all bytes but those of
the tails left (`read?_parts`).  So arguments are read back, as long as places and lengths fit in a
word (`read?_arguments`).

That two rows of arguments of the same types have different bytes needs no bound if at most one of
them has a tail (`eq_of_arguments_eq`): the bytes have one length, so lengths that differ by more
than a block cannot share a word.
-/

namespace RollupWallet.Layer1

/-- What an argument is read as. -/
inductive AbiKind where
  | word
  | bytes
deriving DecidableEq, Repr

namespace AbiValue

/-- The kind of an argument. -/
def kind : AbiValue → AbiKind
  | word _ => .word
  | bytes _ => .bytes

/-- The word of an argument, given the place of its tail. -/
def head (place : ℕ) : AbiValue → Bytes
  | word value => value.bytes
  | bytes _ => Bytes.ofNat 32 place

/-- The tail of an argument: nothing, or the number of the bytes, the bytes and the zeros up to the
end of the block. -/
def tail : AbiValue → Bytes
  | word _ => []
  | bytes value =>
    Bytes.ofNat 32 value.length ++ value ++ List.replicate ((32 - value.length % 32) % 32) 0

end AbiValue

namespace Abi

/-- The tails of arguments. -/
def tails (values : List AbiValue) : Bytes := values.flatMap AbiValue.tail

/-- The words of arguments. Each tail stands behind all words and the tails in front of it. -/
def heads (values : List AbiValue) : Bytes :=
  (values.mapIdx fun i value =>
    value.head (32 * values.length + (tails (values.take i)).length)).flatten

/-! ### The layout -/

theorem dynamic_eq_tail (value : Bytes) : dynamic value = (AbiValue.bytes value).tail := by
  have hfill : (value.length + 31) / 32 * 32 - value.length = (32 - value.length % 32) % 32 := by
    omega
  rw [dynamic, Bytes.padRight, hfill, AbiValue.tail, List.append_assoc]

theorem parts_eq (offset : ℕ) (values : List AbiValue) :
    parts offset values =
      ((values.mapIdx fun i value => value.head (offset + (tails (values.take i)).length)).flatten,
        tails values) := by
  induction values generalizing offset with
  | nil => rfl
  | cons value rest ih =>
      cases value with
      | word value =>
          simp only [parts, ih, List.mapIdx_cons, List.take_succ_cons, tails, List.flatMap_cons,
            AbiValue.tail, List.nil_append]
          rfl
      | bytes value =>
          have hstep (i : ℕ) :
              offset + (tails ((AbiValue.bytes value :: rest).take (i + 1))).length =
              offset + (dynamic value).length + (tails (rest.take i)).length := by
            rw [List.take_succ_cons, tails, List.flatMap_cons, List.length_append, dynamic_eq_tail,
              Nat.add_assoc]
            rfl
          simp only [parts, ih, List.mapIdx_cons, hstep]
          rw [dynamic_eq_tail]
          rfl

/-- **The bytes of arguments are their words and behind them the tails.** -/
theorem arguments_eq (values : List AbiValue) :
    arguments values = heads values ++ tails values := by
  rw [arguments, parts_eq]
  rfl

@[simp] theorem length_parts_fst (offset : ℕ) (values : List AbiValue) :
    (parts offset values).1.length = 32 * values.length := by
  induction values generalizing offset with
  | nil => rfl
  | cons value rest ih =>
      cases value with
      | word value => simp [parts, ih, value.length_eq, Nat.mul_succ, Nat.add_comm]
      | bytes value => simp [parts, ih, Nat.mul_succ, Nat.add_comm]

/-! ### Reading -/

/-- The word at a place. -/
def wordAt? (data : Bytes) (place : ℕ) : Option Bytes32 :=
  FixedBytes.ofBytes? 32 ((data.drop place).take 32)

/-- The bytes at a place, behind their number. -/
def bytesAt? (data : Bytes) (place : ℕ) : Option Bytes := do
  let length ← wordAt? data place
  let value := (data.drop (place + 32)).take length.toNat
  if value.length = length.toNat then some value else none

/-- The argument whose word stands at a place. -/
def argument? (data : Bytes) (place : ℕ) : AbiKind → Option AbiValue
  | .word => .word <$> wordAt? data place
  | .bytes => do
    let word ← wordAt? data place
    .bytes <$> bytesAt? data word.toNat

/-- Arguments of given kinds, the words of which start at a place. -/
def read? (data : Bytes) : (place : ℕ) → List AbiKind → Option (List AbiValue)
  | _, [] => some []
  | place, kind :: kinds => do
    let value ← argument? data place kind
    let values ← read? data (place + 32) kinds
    return value :: values

theorem wordAt?_append (front : Bytes) (word : Bytes32) (behind : Bytes) :
    wordAt? (front ++ (word.bytes ++ behind)) front.length = some word := by
  rw [wordAt?, List.drop_left, List.take_left' word.length_eq, FixedBytes.ofBytes?_bytes]

theorem wordAt?_ofNat (front : Bytes) (n : ℕ) (behind : Bytes) :
    wordAt? (front ++ (Bytes.ofNat 32 n ++ behind)) front.length = some (.ofNat 32 n) :=
  wordAt?_append front (.ofNat 32 n) behind

theorem toNat_ofNat_of_lt {n : ℕ} (hn : n < 256 ^ 32) : (FixedBytes.ofNat 32 n).toNat = n := by
  rw [FixedBytes.toNat_ofNat, Nat.mod_eq_of_lt hn]

/-- Bytes whose number fits in a word are read back from their place. -/
theorem bytesAt?_append (front value behind : Bytes) (hvalue : value.length < 256 ^ 32) :
    bytesAt? (front ++ (dynamic value ++ behind)) front.length = some value := by
  set zeros : Bytes := List.replicate ((32 - value.length % 32) % 32) 0
  have hdata : front ++ (dynamic value ++ behind) =
      front ++ (Bytes.ofNat 32 value.length ++ (value ++ (zeros ++ behind))) := by
    rw [dynamic_eq_tail, AbiValue.tail]
    simp only [List.append_assoc, zeros]
  have hdrop : (front ++ (Bytes.ofNat 32 value.length ++ (value ++ (zeros ++ behind)))).drop
      (front.length + 32) = value ++ (zeros ++ behind) := by
    rw [← List.append_assoc, List.drop_left']
    rw [List.length_append, Bytes.length_ofNat]
  rw [hdata, bytesAt?, wordAt?_ofNat]
  simp only [Option.bind_eq_bind, Option.bind_some, toNat_ofNat_of_lt hvalue, hdrop, List.take_left,
    if_true]

/-- Reading goes on behind what has been read: `front` are the words in front, `middle` the tails
in front, and the next tail stands behind all of them and the words that are left. -/
theorem read?_parts (values : List AbiValue) (front middle : Bytes) {offset : ℕ}
    (hoffset : front.length + (32 * values.length + middle.length) = offset)
    (hfits : offset + (parts offset values).2.length < 256 ^ 32) :
    read? (front ++ ((parts offset values).1 ++ (middle ++ (parts offset values).2))) front.length
      (values.map AbiValue.kind) = some values := by
  induction values generalizing front middle offset with
  | nil => rfl
  | cons value rest ih =>
      rw [List.length_cons] at hoffset
      cases value with
      | word value =>
          -- the word is one more in front
          have hlength : (front ++ value.bytes).length = front.length + 32 := by
            rw [List.length_append, value.length_eq]
          have hrest := ih (front ++ value.bytes) middle (by omega) hfits
          rw [hlength] at hrest
          simp only [parts, List.append_assoc, List.map_cons, AbiValue.kind, read?, argument?,
            wordAt?_append]
          rw [← List.append_assoc, hrest]
          rfl
      | bytes value =>
          -- the word is one more in front, and the tail one more in the middle
          set next := offset + (dynamic value).length with hnext
          set words := (parts next rest).1 with hwords
          set behind := (parts next rest).2 with hbehind
          have hparts : parts offset (.bytes value :: rest) =
              (Bytes.ofNat 32 offset ++ words, dynamic value ++ behind) := rfl
          have hvalue : value.length ≤ (dynamic value).length := by
            rw [dynamic_eq_tail, AbiValue.tail]
            simp only [List.length_append]
            omega
          rw [hparts, List.length_append] at hfits
          have hfront : (front ++ Bytes.ofNat 32 offset).length = front.length + 32 := by
            rw [List.length_append, Bytes.length_ofNat]
          have hplace : (front ++ Bytes.ofNat 32 offset).length +
              (32 * rest.length + (middle ++ dynamic value).length) = next := by
            rw [hfront, List.length_append]
            omega
          have hnextfits : next + (parts next rest).2.length < 256 ^ 32 := by
            rw [← hbehind]
            omega
          have hrest := ih (front ++ Bytes.ofNat 32 offset) (middle ++ dynamic value) hplace
            hnextfits
          rw [hfront, ← hwords, ← hbehind] at hrest
          have hbefore :
              (front ++ (Bytes.ofNat 32 offset ++ (words ++ middle))).length = offset := by
            simp only [List.length_append, Bytes.length_ofNat, hwords, length_parts_fst]
            omega
          have htail := bytesAt?_append
            (front ++ (Bytes.ofNat 32 offset ++ (words ++ middle))) value behind (by omega)
          rw [hbefore] at htail
          simp only [List.append_assoc] at hrest htail
          simp only [hparts, List.append_assoc, List.map_cons, AbiValue.kind, read?, argument?,
            wordAt?_ofNat, Option.bind_eq_bind, Option.bind_some,
            toNat_ofNat_of_lt (n := offset) (by omega), htail, hrest]
          rfl

/-- **Arguments are read back from their bytes**, if these are not too many to be counted in a
word. -/
theorem read?_arguments {values : List AbiValue} (hfits : (arguments values).length < 256 ^ 32) :
    read? (arguments values) 0 (values.map AbiValue.kind) = some values := by
  have hlength : (arguments values).length =
      32 * values.length + (parts (32 * values.length) values).2.length := by
    rw [arguments, List.length_append, length_parts_fst]
  exact read?_parts values [] [] (by simp) (hlength ▸ hfits)

/-! ### Different arguments -/

/-- Bytes with their number in front, filled up to whole blocks, determine the bytes. -/
theorem dynamic_injective : Function.Injective dynamic := by
  intro a b h
  have hlength := congrArg List.length h
  rw [dynamic, dynamic] at h
  obtain ⟨hcount, hbytes⟩ := List.append_inj h (by simp)
  have hmod : a.length % 256 ^ 32 = b.length % 256 ^ 32 := by
    rw [← Bytes.toNat_ofNat, ← Bytes.toNat_ofNat, hcount]
  have hlen : a.length = b.length := by
    simp only [dynamic, Bytes.padRight, List.length_append, Bytes.length_ofNat,
      List.length_replicate] at hlength
    omega
  rw [Bytes.padRight, Bytes.padRight] at hbytes
  exact (List.append_inj hbytes hlen).1

/-- Words have no tails, and stand one behind the other wherever tails would start. -/
theorem parts_words {values : List AbiValue} (h : ∀ value ∈ values, value.kind = .word)
    (offset : ℕ) : parts offset values = (values.flatMap (AbiValue.head 0), []) := by
  induction values with
  | nil => rfl
  | cons value rest ih =>
      cases value with
      | word value =>
          rw [parts, ih fun other hother => h other (List.mem_cons_of_mem _ hother)]
          rfl
      | bytes value => cases h (.bytes value) List.mem_cons_self

/-- Arguments of the same kinds, at most one of which has a tail, differ in their parts. -/
theorem eq_of_parts_eq {values others : List AbiValue} {offset : ℕ}
    (hkinds : values.map AbiValue.kind = others.map AbiValue.kind)
    (hone : (values.map AbiValue.kind).count .bytes ≤ 1)
    (h : parts offset values = parts offset others) : values = others := by
  induction values generalizing others offset with
  | nil => exact (List.map_eq_nil_iff.mp hkinds.symm).symm
  | cons value rest ih =>
      obtain ⟨other, others, rfl, hkind, hrest⟩ := List.map_eq_cons_iff.mp hkinds.symm
      rw [List.map_cons] at hone
      cases value with
      | word value =>
          cases other with
          | bytes other => cases hkind
          | word other =>
              obtain ⟨hwords, htails⟩ := Prod.mk.inj h
              obtain ⟨hword, hwords⟩ := List.append_inj hwords
                (value.length_eq.trans other.length_eq.symm)
              rw [FixedBytes.ext hword,
                ih hrest.symm (by simpa [AbiValue.kind] using hone) (Prod.ext hwords htails)]
      | bytes value =>
          cases other with
          | word other => cases hkind
          | bytes other =>
              -- the arguments behind are words
              rw [AbiValue.kind, List.count_cons_self] at hone
              have hcount : (rest.map AbiValue.kind).count .bytes = 0 := by omega
              have hnone := List.count_eq_zero.mp hcount
              have hword (row : List AbiValue)
                  (hrow : row.map AbiValue.kind = rest.map AbiValue.kind) :
                  ∀ v ∈ row, v.kind = .word := by
                intro v hv
                have hmem : v.kind ∈ rest.map AbiValue.kind := hrow ▸ List.mem_map_of_mem hv
                cases hv : v.kind with
                | word => rfl
                | bytes => exact absurd (hv ▸ hmem) hnone
              have hparts := parts_words (hword rest rfl)
              have hothers := parts_words (hword others hrest)
              simp only [parts, hparts, hothers, List.append_nil, Prod.mk.injEq,
                List.append_cancel_left_eq] at h
              have hsame : parts offset rest = parts offset others := by
                rw [hparts, hothers, h.1]
              rw [dynamic_injective h.2, ih hrest.symm (by omega) hsame]

/-- **Arguments of the same kinds have different bytes**, if at most one of them has a tail. -/
theorem eq_of_arguments_eq {values others : List AbiValue}
    (hkinds : values.map AbiValue.kind = others.map AbiValue.kind)
    (hone : (values.map AbiValue.kind).count .bytes ≤ 1)
    (h : arguments values = arguments others) : values = others := by
  have hlength : values.length = others.length := by
    rw [← List.length_map AbiValue.kind, hkinds, List.length_map]
  rw [arguments, arguments, ← hlength] at h
  obtain ⟨hwords, htails⟩ := List.append_inj h (by simp [hlength])
  exact eq_of_parts_eq hkinds hone (Prod.ext hwords htails)

end Abi

end RollupWallet.Layer1
