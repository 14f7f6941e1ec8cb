import Mathlib
import RollupWallet.Text.Base64

/-!
# Base64 reads back what it writes, and nothing else

A symbol is read as the number it stands for (`index?_symbol`), the numbers of a group are the bits
of its bytes, and a shorter group at the end leaves its spare bits zero.  The round trip
(`decode?_encode`) is an induction over groups of three bytes.

In the other direction a number has one symbol (`symbol_of_index?`), so that the bytes of a group
determine its symbols, provided that no bits are to spare.  Reading asks for just that in the last
group, so a text is read only if it is what is written (`decode?_eq_some_iff`).  A text with
symbols left over beside its groups of four, and one with bits left over before its padding, are
therefore not read (`decode?_of_unpadded`, `decode?_of_strayBits`).
-/

namespace RollupWallet.Text.Base64

/-! ### Symbols -/

theorem index?_symbol : ∀ n < 64, index? (symbol n) = some n := by decide

theorem symbol_ne_pad : ∀ n < 64, symbol n ≠ pad := by decide

/-- A byte is what its number says. -/
theorem ofNat_eq {byte : UInt8} {n : ℕ} (h : n = byte.toNat) : UInt8.ofNat n = byte := by
  rw [h, UInt8.ofNat_toNat]

/-! ### Groups -/

theorem lastOne?_symbols (a : UInt8) :
    lastOne? (symbol (a.toNat / 4)) (symbol (a.toNat % 4 * 16)) = some [a] := by
  have ha := a.toNat_lt
  have hbyte : UInt8.ofNat (a.toNat / 4 * 4 + a.toNat % 4 * 16 / 16) = a := ofNat_eq (by omega)
  rw [lastOne?, index?_symbol _ (by omega), index?_symbol _ (by omega)]
  show (if a.toNat % 4 * 16 % 16 = 0 then _ else none) = _
  rw [if_pos (by omega), hbyte]

theorem lastTwo?_symbols (a b : UInt8) :
    lastTwo? (symbol (a.toNat / 4)) (symbol (a.toNat % 4 * 16 + b.toNat / 16))
      (symbol (b.toNat % 16 * 4)) = some [a, b] := by
  have ha := a.toNat_lt
  have hb := b.toNat_lt
  have hfirst : UInt8.ofNat (a.toNat / 4 * 4 + (a.toNat % 4 * 16 + b.toNat / 16) / 16) = a :=
    ofNat_eq (by omega)
  have hsecond : UInt8.ofNat ((a.toNat % 4 * 16 + b.toNat / 16) % 16 * 16 +
      b.toNat % 16 * 4 / 4) = b := ofNat_eq (by omega)
  rw [lastTwo?, index?_symbol _ (by omega), index?_symbol _ (by omega), index?_symbol _ (by omega)]
  show (if b.toNat % 16 * 4 % 4 = 0 then _ else none) = _
  rw [if_pos (by omega), hfirst, hsecond]

theorem group?_symbols (a b c : UInt8) :
    group? (symbol (a.toNat / 4)) (symbol (a.toNat % 4 * 16 + b.toNat / 16))
      (symbol (b.toNat % 16 * 4 + c.toNat / 64)) (symbol (c.toNat % 64)) = some [a, b, c] := by
  have ha := a.toNat_lt
  have hb := b.toNat_lt
  have hc := c.toNat_lt
  have hfirst : UInt8.ofNat (a.toNat / 4 * 4 + (a.toNat % 4 * 16 + b.toNat / 16) / 16) = a :=
    ofNat_eq (by omega)
  have hsecond : UInt8.ofNat ((a.toNat % 4 * 16 + b.toNat / 16) % 16 * 16 +
      (b.toNat % 16 * 4 + c.toNat / 64) / 4) = b := ofNat_eq (by omega)
  have hthird : UInt8.ofNat ((b.toNat % 16 * 4 + c.toNat / 64) % 4 * 64 + c.toNat % 64) = c :=
    ofNat_eq (by omega)
  rw [group?, index?_symbol _ (by omega), index?_symbol _ (by omega), index?_symbol _ (by omega),
    index?_symbol _ (by omega)]
  show some _ = _
  rw [hfirst, hsecond, hthird]

/-! ### Texts -/

/-- **Base64 reads back the bytes that it writes.** -/
theorem decode?_encode (bytes : Bytes) : decode? (encode bytes) = some bytes := by
  induction bytes using encode.induct with
  | case1 => rfl
  | case2 a =>
      rw [encode, decode?, if_pos rfl, if_neg (by simp), if_pos rfl, lastOne?_symbols]
  | case3 a b =>
      have hpad : symbol (b.toNat % 16 * 4) ≠ pad := symbol_ne_pad _ (by omega)
      rw [encode, decode?, if_pos rfl, if_neg (by simp), if_neg hpad, lastTwo?_symbols]
  | case4 a b c rest ih =>
      have hpad : symbol (c.toNat % 64) ≠ pad := symbol_ne_pad _ (by omega)
      rw [encode, decode?, if_neg hpad, group?_symbols, ih]
      rfl

/-- What is written consists of symbols and of padding. -/
theorem mem_encode {bytes : Bytes} {byte : UInt8} (h : byte ∈ encode bytes) :
    byte = pad ∨ ∃ n < 64, byte = symbol n := by
  induction bytes using encode.induct with
  | case1 => exact absurd h List.not_mem_nil
  | case2 a =>
      have ha := a.toNat_lt
      simp only [encode, List.mem_cons, List.not_mem_nil, or_false] at h
      rcases h with rfl | rfl | rfl | rfl
      · exact Or.inr ⟨_, by omega, rfl⟩
      · exact Or.inr ⟨_, by omega, rfl⟩
      · exact Or.inl rfl
      · exact Or.inl rfl
  | case3 a b =>
      have ha := a.toNat_lt
      have hb := b.toNat_lt
      simp only [encode, List.mem_cons, List.not_mem_nil, or_false] at h
      rcases h with rfl | rfl | rfl | rfl
      · exact Or.inr ⟨_, by omega, rfl⟩
      · exact Or.inr ⟨_, by omega, rfl⟩
      · exact Or.inr ⟨_, by omega, rfl⟩
      · exact Or.inl rfl
  | case4 a b c rest ih =>
      have ha := a.toNat_lt
      have hb := b.toNat_lt
      have hc := c.toNat_lt
      simp only [encode, List.mem_cons] at h
      rcases h with rfl | rfl | rfl | rfl | h
      · exact Or.inr ⟨_, by omega, rfl⟩
      · exact Or.inr ⟨_, by omega, rfl⟩
      · exact Or.inr ⟨_, by omega, rfl⟩
      · exact Or.inr ⟨_, by omega, rfl⟩
      · exact ih h

/-! ### One text for the bytes -/

/-- A number has one symbol. -/
theorem symbol_of_index? {byte : UInt8} {n : ℕ} (h : index? byte = some n) :
    n < 64 ∧ symbol n = byte := by
  have hbytes : ∀ m < 256, ∀ n ∈ index? (UInt8.ofNat m), n < 64 ∧ symbol n = UInt8.ofNat m := by
    decide +kernel
  have hbyte := hbytes byte.toNat byte.toNat_lt n
  rw [UInt8.ofNat_toNat] at hbyte
  exact hbyte h

/-- Numbers below sixty-four have different symbols. -/
theorem symbol_inj {m n : ℕ} (hm : m < 64) (hn : n < 64) (h : symbol m = symbol n) : m = n := by
  have hindex := congrArg index? h
  rw [index?_symbol m hm, index?_symbol n hn] at hindex
  exact Option.some.inj hindex

theorem encode_of_lastOne? {a b : UInt8} {bytes : Bytes} (h : lastOne? a b = some bytes) :
    encode bytes = [a, b, pad, pad] := by
  simp only [lastOne?, Option.bind_eq_bind, Option.bind_eq_some_iff] at h
  obtain ⟨x, hx, y, hy, h⟩ := h
  obtain ⟨hxlt, rfl⟩ := symbol_of_index? hx
  obtain ⟨hylt, rfl⟩ := symbol_of_index? hy
  by_cases hspare : y % 16 = 0
  · rw [if_pos hspare] at h
    have hbyte : (UInt8.ofNat (x * 4 + y / 16)).toNat = x * 4 + y / 16 :=
      UInt8.toNat_ofNat_of_lt' (by show _ < 256; omega)
    have hfirst : (x * 4 + y / 16) / 4 = x := by omega
    have hsecond : (x * 4 + y / 16) % 4 * 16 = y := by omega
    rw [← Option.some.inj h, encode, hbyte, hfirst, hsecond]
  · rw [if_neg hspare] at h
    cases h

theorem encode_of_lastTwo? {a b c : UInt8} {bytes : Bytes} (h : lastTwo? a b c = some bytes) :
    encode bytes = [a, b, c, pad] := by
  simp only [lastTwo?, Option.bind_eq_bind, Option.bind_eq_some_iff] at h
  obtain ⟨x, hx, y, hy, z, hz, h⟩ := h
  obtain ⟨hxlt, rfl⟩ := symbol_of_index? hx
  obtain ⟨hylt, rfl⟩ := symbol_of_index? hy
  obtain ⟨hzlt, rfl⟩ := symbol_of_index? hz
  by_cases hspare : z % 4 = 0
  · rw [if_pos hspare] at h
    have hbyte : (UInt8.ofNat (x * 4 + y / 16)).toNat = x * 4 + y / 16 :=
      UInt8.toNat_ofNat_of_lt' (by show _ < 256; omega)
    have hbyte' : (UInt8.ofNat (y % 16 * 16 + z / 4)).toNat = y % 16 * 16 + z / 4 :=
      UInt8.toNat_ofNat_of_lt' (by show _ < 256; omega)
    have hfirst : (x * 4 + y / 16) / 4 = x := by omega
    have hsecond : (x * 4 + y / 16) % 4 * 16 + (y % 16 * 16 + z / 4) / 16 = y := by omega
    have hthird : (y % 16 * 16 + z / 4) % 16 * 4 = z := by omega
    rw [← Option.some.inj h, encode, hbyte, hbyte', hfirst, hsecond, hthird]
  · rw [if_neg hspare] at h
    cases h

/-- A full group is what is written for its three bytes, in front of what follows them. -/
theorem encode_of_group? {a b c d : UInt8} {bytes : Bytes} (h : group? a b c d = some bytes)
    (rest : Bytes) : encode (bytes ++ rest) = a :: b :: c :: d :: encode rest := by
  simp only [group?, Option.bind_eq_bind, Option.bind_eq_some_iff] at h
  obtain ⟨x, hx, y, hy, z, hz, w, hw, h⟩ := h
  obtain ⟨hxlt, rfl⟩ := symbol_of_index? hx
  obtain ⟨hylt, rfl⟩ := symbol_of_index? hy
  obtain ⟨hzlt, rfl⟩ := symbol_of_index? hz
  obtain ⟨hwlt, rfl⟩ := symbol_of_index? hw
  have hbyte : (UInt8.ofNat (x * 4 + y / 16)).toNat = x * 4 + y / 16 :=
    UInt8.toNat_ofNat_of_lt' (by show _ < 256; omega)
  have hbyte' : (UInt8.ofNat (y % 16 * 16 + z / 4)).toNat = y % 16 * 16 + z / 4 :=
    UInt8.toNat_ofNat_of_lt' (by show _ < 256; omega)
  have hbyte'' : (UInt8.ofNat (z % 4 * 64 + w)).toNat = z % 4 * 64 + w :=
    UInt8.toNat_ofNat_of_lt' (by show _ < 256; omega)
  have hfirst : (x * 4 + y / 16) / 4 = x := by omega
  have hsecond : (x * 4 + y / 16) % 4 * 16 + (y % 16 * 16 + z / 4) / 16 = y := by omega
  have hthird : (y % 16 * 16 + z / 4) % 16 * 4 + (z % 4 * 64 + w) / 64 = z := by omega
  have hfourth : (z % 4 * 64 + w) % 64 = w := by omega
  rw [← Option.some.inj h, List.cons_append, List.cons_append, List.cons_append, List.nil_append,
    encode, hbyte, hbyte', hbyte'', hfirst, hsecond, hthird, hfourth]

theorem encode_of_decode? {text bytes : Bytes} (h : decode? text = some bytes) :
    encode bytes = text := by
  induction text using decode?.induct generalizing bytes with
  | case1 =>
      rw [← Option.some.inj h]
      rfl
  | case2 a b c rest hrest =>
      rw [decode?, if_pos rfl, if_pos hrest] at h
      cases h
  | case3 a b rest hrest =>
      obtain rfl := not_not.mp hrest
      rw [decode?, if_pos rfl, if_neg hrest, if_pos rfl] at h
      exact encode_of_lastOne? h
  | case4 a b c rest hrest hpad =>
      obtain rfl := not_not.mp hrest
      rw [decode?, if_pos rfl, if_neg hrest, if_neg hpad] at h
      exact encode_of_lastTwo? h
  | case5 a b c d rest hpad ih =>
      rw [decode?, if_neg hpad] at h
      simp only [Option.bind_eq_bind, Option.bind_eq_some_iff] at h
      obtain ⟨first, hfirst, others, hothers, h⟩ := h
      rw [← Option.some.inj h, encode_of_group? hfirst, ih hothers]
  | case6 text hnil hshort =>
      rw [decode?] at h
      · cases h
      · exact hnil
      · exact hshort

/-- **A text is read as bytes exactly if it is what is written for them.** -/
theorem decode?_eq_some_iff {text bytes : Bytes} : decode? text = some bytes ↔ text = encode bytes := by
  constructor
  · intro h
    exact (encode_of_decode? h).symm
  · intro h
    rw [h, decode?_encode]

/-! ### Texts that are not read -/

/-- Symbols are written in groups of four. -/
theorem length_encode (bytes : Bytes) : (encode bytes).length % 4 = 0 := by
  induction bytes using encode.induct with
  | case1 => rfl
  | case2 a => simp [encode]
  | case3 a b => simp [encode]
  | case4 a b c rest ih =>
      simp only [encode, List.length_cons]
      omega

/-- A text whose last group is not full is not read. -/
theorem decode?_of_unpadded {text : Bytes} (h : text.length % 4 ≠ 0) : decode? text = none := by
  refine Option.eq_none_iff_forall_ne_some.mpr fun bytes hread => h ?_
  rw [decode?_eq_some_iff.mp hread]
  exact length_encode bytes

/-- The symbol in front of the padding has no bits but those of the last byte. -/
theorem symbol_of_encode_eq {bytes front : Bytes} {a b c : UInt8}
    (h : encode bytes = front ++ [a, b, c, pad]) :
    (∃ n < 4, b = symbol (n * 16) ∧ c = pad) ∨ ∃ n < 16, c = symbol (n * 4) := by
  induction bytes using encode.induct generalizing front with
  | case1 => exact absurd h.symm (List.append_ne_nil_of_right_ne_nil _ (List.cons_ne_nil _ _))
  | case2 x =>
      rw [encode] at h
      have hgroup := (List.append_inj' ((List.nil_append _).trans h) rfl).2
      simp only [List.cons.injEq] at hgroup
      exact Or.inl ⟨x.toNat % 4, by omega, hgroup.2.1.symm, hgroup.2.2.1.symm⟩
  | case3 x y =>
      rw [encode] at h
      have hgroup := (List.append_inj' ((List.nil_append _).trans h) rfl).2
      simp only [List.cons.injEq] at hgroup
      exact Or.inr ⟨y.toNat % 16, by omega, hgroup.2.2.1.symm⟩
  | case4 x y z rest ih =>
      have hlast : symbol (z.toNat % 64) ≠ pad := symbol_ne_pad _ (by omega)
      rw [encode] at h
      -- what stands in front of the padded group has full groups as well
      have hfront : (encode rest).length = front.length := by
        simpa using congrArg List.length h
      have hfull : front.length % 4 = 0 := hfront ▸ length_encode rest
      rcases front with _ | ⟨_, _ | ⟨_, _ | ⟨_, _ | ⟨_, front⟩⟩⟩⟩
      · simp only [List.nil_append, List.cons.injEq] at h
        exact absurd h.2.2.2.1 hlast
      · cases hfull
      · cases hfull
      · cases hfull
      · simp only [List.cons_append, List.cons.injEq] at h
        exact ih h.2.2.2.2

/-- Bits in front of the padding that belong to no byte: four behind one byte, two behind two. -/
inductive StrayBits : Bytes → Prop where
  | one (front : Bytes) (a : UInt8) (n : ℕ) (hn : n < 64) (hbits : n % 16 ≠ 0) :
      StrayBits (front ++ [a, symbol n, pad, pad])
  | two (front : Bytes) (a b : UInt8) (n : ℕ) (hn : n < 64) (hbits : n % 4 ≠ 0) :
      StrayBits (front ++ [a, b, symbol n, pad])

/-- A text with stray bits is not read. -/
theorem decode?_of_strayBits {text : Bytes} (h : StrayBits text) : decode? text = none := by
  refine Option.eq_none_iff_forall_ne_some.mpr fun bytes hread => ?_
  have htext := (decode?_eq_some_iff.mp hread).symm
  cases h with
  | one front a n hn hbits =>
      rcases symbol_of_encode_eq htext with ⟨m, hm, hsymbol, -⟩ | ⟨m, hm, hsymbol⟩
      · have heq : n = m * 16 := symbol_inj hn (by omega) hsymbol
        omega
      · exact symbol_ne_pad (m * 4) (by omega) hsymbol.symm
  | two front a b n hn hbits =>
      rcases symbol_of_encode_eq htext with ⟨m, hm, -, hsymbol⟩ | ⟨m, hm, hsymbol⟩
      · exact symbol_ne_pad n hn hsymbol
      · have heq : n = m * 4 := symbol_inj hn (by omega) hsymbol
        omega

end RollupWallet.Text.Base64
