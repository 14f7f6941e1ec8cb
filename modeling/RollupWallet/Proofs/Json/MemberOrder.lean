import Mathlib
import RollupWallet.Proofs.Json.Record

/-!
# The order of members

Reading a member touches at most one slot, the one of its name, and finds it empty
(`Slots.put?_cons_iff`).  So two members that are read one after the other could as well be read the
other way round (`Slots.readMember_comm`), and **an object is read as the same slots in whatever
order its members stand** (`Slots.foldlM_perm`).

No two members of one name of the schema are read: if there were two, they could be brought to the
front, where the second is refused (`Slots.pairwise_of_foldlM`).
-/

namespace RollupWallet.Json.Slots

variable {schema : List Member}

/-! ### One member -/

theorem put?_cons (key : String) (tree : Json) {member : Member} {members : List Member}
    (slot : Option member.Value) (slots : Slots members) :
    put? key tree (member :: members) (slot, slots) =
      if key = member.name then
        match slot with
        | some _ => .error (.duplicateMember member.name)
        | none => member.codec.read tree >>= fun value => pure (some (some value, slots))
      else put? key tree members slots >>= fun found => pure (found.map (slot, ·)) := rfl

/-- A name is the one of the first member, whose slot is then filled, or it is looked for among the
others. -/
theorem put?_cons_iff {key : String} {tree : Json} {member : Member} {members : List Member}
    {slot slot' : Option member.Value} {slots slots' : Slots members} :
    put? key tree (member :: members) (slot, slots) = .ok (some (slot', slots')) ↔
      (key = member.name ∧ slot = none ∧
        ∃ value, member.codec.read tree = .ok value ∧ slot' = some value ∧ slots' = slots) ∨
      (key ≠ member.name ∧ slot' = slot ∧ put? key tree members slots = .ok (some slots')) := by
  rw [put?_cons]
  constructor
  · intro h
    split at h
    · next hkey =>
      cases slot with
      | some value => cases h
      | none =>
          obtain ⟨value, hread, h⟩ := bind_eq_ok.mp h
          cases h
          exact Or.inl ⟨hkey, rfl, value, hread, rfl, rfl⟩
    · next hkey =>
      obtain ⟨found, hfound, h⟩ := bind_eq_ok.mp h
      cases found with
      | none => cases h
      | some found =>
          cases h
          exact Or.inr ⟨hkey, rfl, hfound⟩
  · rintro (⟨hkey, rfl, value, hread, rfl, rfl⟩ | ⟨hkey, rfl, hput⟩)
    · rw [if_pos hkey]
      exact bind_eq_ok.mpr ⟨value, hread, rfl⟩
    · rw [if_neg hkey]
      exact bind_eq_ok.mpr ⟨some slots', hput, rfl⟩

/-- A name is not found exactly if the schema does not have it. -/
theorem put?_eq_none_iff {key : String} {tree : Json} {slots : Slots schema} :
    put? key tree schema slots = .ok none ↔ key ∉ schema.map Member.name := by
  induction schema with
  | nil => exact iff_of_true rfl List.not_mem_nil
  | cons member members ih =>
      obtain ⟨slot, slots⟩ := slots
      rw [List.map_cons, List.mem_cons, not_or, ← ih, put?_cons]
      split
      · next hkey =>
        refine iff_of_false (fun h => ?_) fun h => h.1 hkey
        cases slot with
        | some value => cases h
        | none =>
            obtain ⟨value, -, h⟩ := bind_eq_ok.mp h
            cases h
      · next hkey =>
        refine Iff.trans ⟨fun h => ?_, fun h => ?_⟩ (and_iff_right hkey).symm
        · obtain ⟨found, hfound, h⟩ := bind_eq_ok.mp h
          cases found with
          | none => exact hfound
          | some found => cases h
        · exact bind_eq_ok.mpr ⟨none, h, rfl⟩

/-- A slot is filled with what the codec of its member reads. -/
theorem exists_read_of_put? {key : String} {tree : Json} {slots next : Slots schema}
    (h : put? key tree schema slots = .ok (some next)) :
    ∃ member ∈ schema, ∃ value, member.codec.read tree = .ok value := by
  induction schema with
  | nil => cases h
  | cons member members ih =>
      rcases put?_cons_iff.mp h with ⟨-, -, value, hread, -⟩ | ⟨-, -, hput⟩
      · exact ⟨member, List.mem_cons_self, value, hread⟩
      · obtain ⟨other, hother, hread⟩ := ih hput
        exact ⟨other, List.mem_cons_of_mem _ hother, hread⟩

/-- A slot is filled once. -/
theorem not_put?_twice {key : String} {tree tree' : Json} {slots next last : Slots schema}
    (h : put? key tree schema slots = .ok (some next)) :
    put? key tree' schema next ≠ .ok (some last) := by
  intro h'
  induction schema with
  | nil => cases h
  | cons member members ih =>
      rcases put?_cons_iff.mp h with ⟨hkey, -, value, -, hfilled, -⟩ | ⟨hkey, -, h⟩
      · rcases put?_cons_iff.mp h' with ⟨-, hempty, -⟩ | ⟨hkey', -⟩
        · rw [hfilled] at hempty
          cases hempty
        · exact hkey' hkey
      · rcases put?_cons_iff.mp h' with ⟨hkey', -⟩ | ⟨-, -, h'⟩
        · exact hkey hkey'
        · exact ih h h'

/-- Two slots are filled in either order. -/
theorem put?_comm {key key' : String} (hne : key ≠ key') {tree tree' : Json}
    {slots next last : Slots schema} (h : put? key tree schema slots = .ok (some next))
    (h' : put? key' tree' schema next = .ok (some last)) :
    ∃ other, put? key' tree' schema slots = .ok (some other) ∧
      put? key tree schema other = .ok (some last) := by
  induction schema with
  | nil => cases h
  | cons member members ih =>
      obtain ⟨slot, slots⟩ := slots
      obtain ⟨slot', next⟩ := next
      obtain ⟨slot'', last⟩ := last
      rcases put?_cons_iff.mp h with ⟨hkey, rfl, value, hread, rfl, rfl⟩ | ⟨hkey, rfl, hput⟩
      · rcases put?_cons_iff.mp h' with ⟨hkey', -⟩ | ⟨hkey', rfl, hput'⟩
        · exact absurd (hkey.trans hkey'.symm) hne
        · exact ⟨(none, last), put?_cons_iff.mpr (Or.inr ⟨hkey', rfl, hput'⟩),
            put?_cons_iff.mpr (Or.inl ⟨hkey, rfl, value, hread, rfl, rfl⟩)⟩
      · rcases put?_cons_iff.mp h' with ⟨hkey', rfl, value, hread, rfl, rfl⟩ | ⟨hkey', rfl, hput'⟩
        · exact ⟨(some value, slots),
            put?_cons_iff.mpr (Or.inl ⟨hkey', rfl, value, hread, rfl, rfl⟩),
            put?_cons_iff.mpr (Or.inr ⟨hkey, rfl, hput⟩)⟩
        · obtain ⟨other, hother, hlast⟩ := ih hput hput'
          exact ⟨(slot'', other), put?_cons_iff.mpr (Or.inr ⟨hkey', rfl, hother⟩),
            put?_cons_iff.mpr (Or.inr ⟨hkey, rfl, hlast⟩)⟩

/-- A member is read as its slot, or it is passed over because the schema does not have its name. -/
theorem readMember_eq_ok_iff {entry : Bytes × Json} {slots next : Slots schema} :
    readMember schema slots entry = .ok next ↔
      ∃ key, Literal.string? entry.1 = some key ∧
        (put? key entry.2 schema slots = .ok (some next) ∨
          key ∉ schema.map Member.name ∧ entry.2.isSound = true ∧ next = slots) := by
  unfold readMember
  constructor
  · intro h
    split at h
    · cases h
    · next key hkey =>
      obtain ⟨found, hfound, h⟩ := bind_eq_ok.mp h
      cases found with
      | some found =>
          cases h
          exact ⟨key, hkey, Or.inl hfound⟩
      | none =>
          dsimp only at h
          split at h
          · next hsound =>
            cases h
            exact ⟨key, hkey, Or.inr ⟨put?_eq_none_iff.mp hfound, hsound, rfl⟩⟩
          · cases h
  · rintro ⟨key, hkey, hput | ⟨hforeign, hsound, rfl⟩⟩
    · simp only [hkey]
      exact bind_eq_ok.mpr ⟨_, hput, rfl⟩
    · simp only [hkey]
      refine bind_eq_ok.mpr ⟨_, put?_eq_none_iff.mpr hforeign, ?_⟩
      exact if_pos hsound

/-! ### Several members -/

/-- Two members are read in either order. -/
theorem readMember_comm {entry entry' : Bytes × Json} {slots next last : Slots schema}
    (h : readMember schema slots entry = .ok next)
    (h' : readMember schema next entry' = .ok last) :
    ∃ other, readMember schema slots entry' = .ok other ∧
      readMember schema other entry = .ok last := by
  obtain ⟨key, hkey, hput | ⟨hforeign, hsound, rfl⟩⟩ := readMember_eq_ok_iff.mp h
  · obtain ⟨key', hkey', hput' | ⟨hforeign', hsound', rfl⟩⟩ := readMember_eq_ok_iff.mp h'
    · have hne : key ≠ key' := by
        rintro rfl
        exact not_put?_twice hput hput'
      obtain ⟨other, hother, hlast⟩ := put?_comm hne hput hput'
      exact ⟨other, readMember_eq_ok_iff.mpr ⟨key', hkey', Or.inl hother⟩,
        readMember_eq_ok_iff.mpr ⟨key, hkey, Or.inl hlast⟩⟩
    · exact ⟨slots, readMember_eq_ok_iff.mpr ⟨key', hkey', Or.inr ⟨hforeign', hsound', rfl⟩⟩, h⟩
  · exact ⟨last, h', readMember_eq_ok_iff.mpr ⟨key, hkey, Or.inr ⟨hforeign, hsound, rfl⟩⟩⟩

/-- **The order of the members does not matter.** -/
theorem foldlM_perm {entries entries' : List (Bytes × Json)} (h : entries.Perm entries')
    {slots last : Slots schema} (hread : entries.foldlM (readMember schema) slots = .ok last) :
    entries'.foldlM (readMember schema) slots = .ok last := by
  induction h generalizing slots with
  | nil => exact hread
  | cons entry _ ih =>
      rw [List.foldlM_cons] at hread ⊢
      obtain ⟨next, hnext, hread⟩ := bind_eq_ok.mp hread
      exact bind_eq_ok.mpr ⟨next, hnext, ih hread⟩
  | swap entry entry' entries =>
      rw [List.foldlM_cons] at hread ⊢
      obtain ⟨next, hnext, hread⟩ := bind_eq_ok.mp hread
      rw [List.foldlM_cons] at hread
      obtain ⟨next', hnext', hread⟩ := bind_eq_ok.mp hread
      obtain ⟨other, hother, hlast⟩ := readMember_comm hnext hnext'
      refine bind_eq_ok.mpr ⟨other, hother, ?_⟩
      rw [List.foldlM_cons]
      exact bind_eq_ok.mpr ⟨next', hlast, hread⟩
  | trans _ _ ih ih' => exact ih' (ih hread)

/-- **No two members that are read have one name of the schema.** -/
theorem pairwise_of_foldlM {entries : List (Bytes × Json)} {slots last : Slots schema}
    (hread : entries.foldlM (readMember schema) slots = .ok last) :
    entries.Pairwise fun a b => ∀ name ∈ schema.map Member.name,
      ¬ (Literal.string? a.1 = some name ∧ Literal.string? b.1 = some name) := by
  rw [List.pairwise_iff_forall_sublist]
  rintro a b hsub name hname ⟨ha, hb⟩
  obtain ⟨others, hperm⟩ := hsub.exists_perm_append
  have hfront := foldlM_perm hperm hread
  rw [List.cons_append, List.foldlM_cons] at hfront
  obtain ⟨next, hnext, hfront⟩ := bind_eq_ok.mp hfront
  rw [List.cons_append, List.foldlM_cons] at hfront
  obtain ⟨next', hnext', -⟩ := bind_eq_ok.mp hfront
  obtain ⟨key, hkey, hput | ⟨hforeign, -⟩⟩ := readMember_eq_ok_iff.mp hnext
  · obtain ⟨key', hkey', hput' | ⟨hforeign, -⟩⟩ := readMember_eq_ok_iff.mp hnext'
    · rw [ha, Option.some.injEq] at hkey
      rw [hb, Option.some.injEq] at hkey'
      subst hkey hkey'
      exact not_put?_twice hput hput'
    · rw [hb, Option.some.injEq] at hkey'
      exact hforeign (hkey' ▸ hname)
  · rw [ha, Option.some.injEq] at hkey
    exact hforeign (hkey ▸ hname)

end RollupWallet.Json.Slots
