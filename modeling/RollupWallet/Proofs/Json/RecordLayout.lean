import Mathlib
import RollupWallet.Proofs.Json.MemberOrder
import RollupWallet.Proofs.Json.Rearranged

/-!
# Records in another layout

The members of a rearranged object are the old ones, with values that may be rearranged, and others
of unknown names, in some order.  Reading the old ones fills the same slots, because their codecs
are steady (`Slots.foldlM_pairs`), reading the others fills none (`Slots.foldlM_added`), and the
order does not matter (`Slots.foldlM_perm`).  So a record of steady members is steady
(`Codec.steady_record`), as an offer inside of a match has to be.

For a whole text it remains that the reader keeps its place in all words among the members.  If it
does not, a fault stands in the place of a member, and no codec takes that for a value; nor does it
come to an end by mistake, since an object that is read has one word at most (`WordsNamed.oneWord`).
Hence **an object is read by what the reader makes of its members** (`Codec.ofText_object_iff`), and
its layout does not matter (`Codec.ofText_of_rearranged`).
-/

namespace RollupWallet.Json

variable {α : Type}

/-! ### Schemas -/

/-- A member is steady if its codec is. -/
class Member.Steady (member : Member) : Prop where
  codec_steady : member.codec.Steady

namespace Member

variable (name : String) (codec : Codec α) [codec.Steady]

instance : (required name codec).Steady := ⟨inferInstanceAs codec.Steady⟩

instance (value : α) : (withDefault name codec value).Steady := ⟨inferInstanceAs codec.Steady⟩

instance : (omittable name codec).Steady := ⟨inferInstanceAs codec.optional.Steady⟩

end Member

/-- All members of a schema are steady. -/
class SteadyMembers (schema : List Member) : Prop where
  steady : ∀ member ∈ schema, member.Steady

instance : SteadyMembers [] := ⟨nofun⟩

instance (member : Member) (members : List Member) [member.Steady] [SteadyMembers members] :
    SteadyMembers (member :: members) where
  steady := List.forall_mem_cons.mpr ⟨inferInstance, SteadyMembers.steady⟩

/-- The members that are expected where a schema is read. -/
def fields (schema : List Member) : List (String × Shape) :=
  schema.map fun member => (member.name, member.codec.shape)

theorem map_fst_fields (schema : List Member) :
    (fields schema).map Prod.fst = schema.map Member.name := by
  rw [fields, List.map_map]
  rfl

namespace Shape

theorem member_cons (name key : String) (shape : Shape) (others : List (String × Shape)) :
    (record ((name, shape) :: others)).member (some key) =
      if name = key then shape else (record others).member (some key) := by
  unfold member
  by_cases h : name = key
  · simp only [List.find?_cons, h, decide_true, if_true]
  · simp only [List.find?_cons, Option.some.injEq, h, decide_false, if_false]

theorem member_of_not_mem {others : List (String × Shape)} {key : String}
    (h : key ∉ others.map Prod.fst) : (record others).member (some key) = any := by
  induction others with
  | nil => rfl
  | cons field others ih =>
      obtain ⟨name, shape⟩ := field
      rw [List.map_cons, List.mem_cons, not_or] at h
      rw [member_cons, if_neg (Ne.symm h.1), ih h.2]

end Shape

namespace Slots

variable {schema : List Member}

/-- What a member is read as goes by the codec of its name. -/
theorem put?_congr {key : String} {tree tree' : Json} {slots last : Slots schema}
    (hread : ∀ member ∈ schema,
      (Shape.record (fields schema)).member (some key) = member.codec.shape →
        ∀ value, member.codec.read tree = .ok value → member.codec.read tree' = .ok value)
    (h : put? key tree schema slots = .ok (some last)) :
    put? key tree' schema slots = .ok (some last) := by
  induction schema with
  | nil => exact h
  | cons member members ih =>
      have hshape : (Shape.record (fields (member :: members))).member (some key) =
          if member.name = key then member.codec.shape
          else (Shape.record (fields members)).member (some key) :=
        Shape.member_cons member.name key member.codec.shape (fields members)
      rcases put?_cons_iff.mp h with ⟨hkey, hempty, value, hvalue, hslot, hslots⟩ |
        ⟨hkey, hslot, hput⟩
      · rw [if_pos hkey.symm] at hshape
        have hvalue' := hread member List.mem_cons_self hshape value hvalue
        exact put?_cons_iff.mpr (Or.inl ⟨hkey, hempty, value, hvalue', hslot, hslots⟩)
      · rw [if_neg (Ne.symm hkey)] at hshape
        refine put?_cons_iff.mpr (Or.inr ⟨hkey, hslot, ih (fun other hother hmember => ?_) hput⟩)
        exact hread other (List.mem_cons_of_mem _ hother) (hshape.trans hmember)

/-- A member is read as before if its value is rearranged. -/
theorem readMember_rearranged (hsteady : ∀ member ∈ schema, member.Steady) {key : Bytes}
    {tree tree' : Json} (htree : Laid tree) (htree' : Laid tree')
    (h : Rearranged ((Shape.record (fields schema)).member (Literal.string? key)) tree tree')
    {slots last : Slots schema}
    (hread : readMember schema slots
      (key, seen ((Shape.record (fields schema)).member (Literal.string? key)) tree) = .ok last) :
    readMember schema slots
      (key, seen ((Shape.record (fields schema)).member (Literal.string? key)) tree') =
        .ok last := by
  obtain ⟨name, hname, hput | ⟨hforeign, hsound, rfl⟩⟩ := readMember_eq_ok_iff.mp hread
  · refine readMember_eq_ok_iff.mpr ⟨name, hname, Or.inl (put?_congr ?_ hput)⟩
    intro member hmember hshape value hvalue
    have hcodec := (hsteady member hmember).codec_steady
    dsimp only at hname hvalue ⊢
    rw [hname, hshape] at h hvalue ⊢
    exact hcodec.read_rearranged htree htree' h hvalue
  · refine readMember_eq_ok_iff.mpr ⟨name, hname, Or.inr ⟨hforeign, ?_, rfl⟩⟩
    dsimp only at hname ⊢
    rw [hname, Shape.member_of_not_mem (by rwa [map_fst_fields]), seen_of_wordless .any]
    exact htree'.isSound

/-- A member of another name is passed over. -/
theorem readMember_added {key : Bytes} {name : String} (hkey : Literal.string? key = some name)
    (hname : name ∉ (fields schema).map Prod.fst) {tree : Json} (htree : Laid tree)
    (slots : Slots schema) :
    readMember schema slots
      (key, seen ((Shape.record (fields schema)).member (Literal.string? key)) tree) =
        .ok slots := by
  have hforeign : name ∉ schema.map Member.name := by rwa [← map_fst_fields]
  refine readMember_eq_ok_iff.mpr ⟨name, hkey, Or.inr ⟨hforeign, ?_, rfl⟩⟩
  dsimp only
  rw [hkey, Shape.member_of_not_mem hname, seen_of_wordless .any]
  exact htree.isSound

theorem foldlM_pairs (hsteady : ∀ member ∈ schema, member.Steady)
    {pairs : List (Bytes × Json × Json)} (hlaid : ∀ m ∈ pairs, Laid m.2.1 ∧ Laid m.2.2)
    (hpairs : ∀ m ∈ pairs,
      Rearranged ((Shape.record (fields schema)).member (Literal.string? m.1)) m.2.1 m.2.2)
    {slots last : Slots schema}
    (hread : (seenMembers (.record (fields schema)) (pairs.map fun m => (m.1, m.2.1))).foldlM
      (readMember schema) slots = .ok last) :
    (seenMembers (.record (fields schema)) (pairs.map fun m => (m.1, m.2.2))).foldlM
      (readMember schema) slots = .ok last := by
  induction pairs generalizing slots with
  | nil => exact hread
  | cons m pairs ih =>
      obtain ⟨hfirst, hlaid⟩ := List.forall_mem_cons.mp hlaid
      obtain ⟨hrearranged, hpairs⟩ := List.forall_mem_cons.mp hpairs
      simp only [seenMembers, List.map_cons, List.foldlM_cons] at hread ⊢
      obtain ⟨next, hnext, hread⟩ := bind_eq_ok.mp hread
      refine bind_eq_ok.mpr ⟨next, ?_, ih hlaid hpairs hread⟩
      exact readMember_rearranged hsteady hfirst.1 hfirst.2 hrearranged hnext

theorem foldlM_added {added : List (Bytes × Json)} (hlaid : ∀ m ∈ added, Laid m.2)
    (hadded : ∀ m ∈ added, ∃ name, Literal.string? m.1 = some name ∧
      name ∉ (fields schema).map Prod.fst) (slots : Slots schema) :
    (seenMembers (.record (fields schema)) added).foldlM (readMember schema) slots =
      .ok slots := by
  induction added with
  | nil => rfl
  | cons m added ih =>
      obtain ⟨hfirst, hlaid⟩ := List.forall_mem_cons.mp hlaid
      obtain ⟨⟨name, hkey, hname⟩, hadded⟩ := List.forall_mem_cons.mp hadded
      simp only [seenMembers, List.map_cons, List.foldlM_cons]
      exact bind_eq_ok.mpr ⟨slots, readMember_added hkey hname hfirst slots, ih hlaid hadded⟩

/-- **The members of a rearranged object are read as before.** -/
theorem foldlM_rearranged (hsteady : ∀ member ∈ schema, member.Steady) {own own' : Bytes}
    {found found' : List (Bytes × Json)} (htree : Laid (.object own found))
    (htree' : Laid (.object own' found'))
    (h : Rearranged (.record (fields schema)) (.object own found) (.object own' found'))
    {slots last : Slots schema}
    (hread : (seenMembers (.record (fields schema)) found).foldlM (readMember schema) slots =
      .ok last) :
    (seenMembers (.record (fields schema)) found').foldlM (readMember schema) slots =
      .ok last := by
  obtain ⟨pairs, added, rfl, hpairs, hadded, horder⟩ := h.exists_pairs
  have hlaid' : ∀ m ∈ pairs.map (fun m => (m.1, m.2.2)) ++ added, Laid m.2 :=
    fun m hm => (htree'.members m (horder.mem_iff.mpr hm)).2
  have hold : ∀ m ∈ pairs, Laid m.2.1 ∧ Laid m.2.2 := fun m hm =>
    ⟨(htree.members _ (List.mem_map_of_mem hm)).2,
      hlaid' _ (List.mem_append_left _ (List.mem_map_of_mem hm))⟩
  have hnew : ∀ m ∈ added, Laid m.2 := fun m hm => hlaid' m (List.mem_append_right _ hm)
  -- the old members first, then the others, then all of them in their order
  refine foldlM_perm (horder.map _).symm ?_
  rw [List.map_append, List.foldlM_append]
  exact bind_eq_ok.mpr ⟨last, foldlM_pairs hsteady hold hpairs hread, foldlM_added hnew hadded last⟩

end Slots

/-! ### Records inside of records -/

/-- Items that differ by blanks are read as one record, if no word is among them. -/
theorem Record.ofItems_of_bare {schema : List Member}
    (hsteady : ∀ member ∈ schema, member.Steady)
    (hwordless : ∀ member ∈ schema, member.codec.shape.Wordless) {items items' : List Json}
    (hitems : ∀ item ∈ items, Laid item) (hitems' : ∀ item ∈ items', Laid item)
    (h : bareItems items = bareItems items') {values : Record schema}
    (hread : Record.ofItems schema items = .ok values) :
    Record.ofItems schema items' = .ok values := by
  induction schema generalizing items items' with
  | nil =>
      cases items with
      | nil => rwa [eq_nil_of_bare h]
      | cons => cases hread
  | cons member members ih =>
      cases items with
      | nil => rwa [eq_nil_of_bare h]
      | cons item items =>
          obtain ⟨item', items', rfl, hitem, hothers⟩ := exists_cons_of_bare h
          obtain ⟨hlaid, hitems⟩ := List.forall_mem_cons.mp hitems
          obtain ⟨hlaid', hitems'⟩ := List.forall_mem_cons.mp hitems'
          obtain ⟨hfirst, hsteady⟩ := List.forall_mem_cons.mp hsteady
          obtain ⟨hshape, hwordless⟩ := List.forall_mem_cons.mp hwordless
          rw [Record.ofItems] at hread ⊢
          obtain ⟨value, hvalue, hread⟩ := bind_eq_ok.mp hread
          obtain ⟨others, hvalues, hread⟩ := bind_eq_ok.mp hread
          have hvalue' : member.codec.read item' = .ok value := by
            have hcodec := hfirst.codec_steady
            rw [← seen_of_wordless hshape item] at hvalue
            rw [← seen_of_wordless hshape item']
            exact hcodec.read_rearranged hlaid hlaid' (.blanks hitem) hvalue
          exact bind_eq_ok.mpr ⟨value, hvalue', bind_eq_ok.mpr
            ⟨others, ih hsteady hwordless hitems hitems' hothers hvalues, hread⟩⟩

theorem seenMembers_of_wordless {shape : Shape} (h : shape.Wordless)
    (found : List (Bytes × Json)) : seenMembers shape found = found := by
  have hsame : (fun m : Bytes × Json => (m.1, seen (shape.member (Literal.string? m.1)) m.2)) =
      id := by
    funext m
    rw [seen_of_wordless (h.member _)]
    rfl
  rw [seenMembers, hsame, List.map_id]

/-- **A record of steady members is steady**, if no word is among them. -/
theorem Codec.steady_record {schema : List Member} [hmembers : SteadyMembers schema]
    (hwordless : ∀ member ∈ schema, member.codec.shape.Wordless) :
    (Codec.record schema).Steady where
  read_fault := nofun
  read_rearranged := by
    have hshape : (Codec.record schema).shape.Wordless := by
      refine .record fun field hfield => ?_
      obtain ⟨member, hmember, rfl⟩ := List.mem_map.mp hfield
      exact hwordless member hmember
    intro tree tree' htree htree' h values hread
    rw [seen_of_wordless hshape] at hread ⊢
    cases tree with
    | array own items =>
        have hblanks : (Json.array own items).bare = tree'.bare := by
          cases h with
          | blanks h => exact h
        obtain ⟨own', items', rfl, hitems⟩ := exists_array_of_bare hblanks
        exact Record.ofItems_of_bare hmembers.steady hwordless htree.items htree'.items hitems hread
    | object own found =>
        obtain ⟨own', found', rfl⟩ := h.exists_object
        obtain ⟨slots, hslots, hfinish⟩ := bind_eq_ok.mp hread
        refine bind_eq_ok.mpr ⟨slots, ?_, hfinish⟩
        have hfields : (Codec.record schema).shape = .record (fields schema) := rfl
        rw [← seenMembers_of_wordless hshape found, hfields] at hslots
        rw [← seenMembers_of_wordless hshape found', hfields]
        exact Slots.foldlM_rearranged hmembers.steady htree htree' h hslots
    | _ => cases hread

/-! ### Whole texts -/

/-- Of the members of a schema only those of one name are words, and the others have no words in
them. -/
def WordsNamed (name : String) (schema : List Member) : Prop :=
  ∀ member ∈ schema, member.codec.shape.Wordless ∨
    member.name = name ∧ ∃ remaining, member.codec.shape = .word (remaining + 1)

/-- What is expected of a member is what the member of the schema expects that has its name. -/
theorem member_fields_cases (schema : List Member) (key : Option String) :
    (Shape.record (fields schema)).member key = .any ∨ ∃ member ∈ schema,
      key = some member.name ∧ (Shape.record (fields schema)).member key = member.codec.shape := by
  rw [Shape.member]
  split
  · next name shape hfound =>
    obtain ⟨member, hmember, heq⟩ := List.mem_map.mp (List.mem_of_find?_eq_some hfound)
    obtain ⟨rfl, rfl⟩ := Prod.mk.inj heq
    have hkey := List.find?_some hfound
    exact Or.inr ⟨member, hmember, (of_decide_eq_true hkey).symm, rfl⟩
  · exact Or.inl rfl

namespace WordsNamed

variable {name : String} {schema : List Member}

theorem hasPlainWords (h : WordsNamed name schema) :
    (Shape.record (fields schema)).HasPlainWords := by
  intro key
  rcases member_fields_cases schema key with hany | ⟨member, hmember, -, hshape⟩
  · exact Or.inl (hany ▸ .any)
  · rw [hshape]
    exact (h member hmember).imp_right And.right

/-- Where words are expected, they are expected of members of one name. -/
theorem key_eq_of_not_wordless (h : WordsNamed name schema) {key : Option String}
    (hkey : ¬ ((Shape.record (fields schema)).member key).Wordless) :
    key = some name ∧ name ∈ schema.map Member.name := by
  rcases member_fields_cases schema key with hany | ⟨member, hmember, rfl, hshape⟩
  · exact absurd (hany ▸ .any) hkey
  · rw [hshape] at hkey
    obtain ⟨rfl, -⟩ := (h member hmember).resolve_left hkey
    exact ⟨rfl, List.mem_map_of_mem hmember⟩

/-- An object that is read has at most one word among its members. -/
theorem oneWord (h : WordsNamed name schema) {found : List (Bytes × Json)}
    {slots last : Slots schema}
    (hread : found.foldlM (Slots.readMember schema) slots = .ok last) :
    OneWord (Shape.record (fields schema)) found := by
  refine (Slots.pairwise_of_foldlM hread).imp fun {a b} hab => ?_
  by_contra hwords
  obtain ⟨ha, hb⟩ := not_or.mp hwords
  obtain ⟨ha, hname⟩ := h.key_eq_of_not_wordless ha
  exact hab name hname ⟨ha, (h.key_eq_of_not_wordless hb).1⟩

end WordsNamed

/-- No object with a fault among its members is read. -/
theorem Slots.foldlM_ne_ok_of_fault {schema : List Member}
    (hsteady : ∀ member ∈ schema, member.Steady) {found : List (Bytes × Json)}
    (hfault : ∃ m ∈ found, m.2 = .fault) {slots last : Slots schema} :
    found.foldlM (Slots.readMember schema) slots ≠ .ok last := by
  intro hread
  obtain ⟨⟨key, tree⟩, hm, rfl⟩ := hfault
  obtain ⟨others, hperm⟩ := (List.singleton_sublist.mpr hm).exists_perm_append
  have hfront := foldlM_perm hperm hread
  rw [List.cons_append, List.foldlM_cons] at hfront
  obtain ⟨next, hnext, -⟩ := bind_eq_ok.mp hfront
  obtain ⟨name, -, hput | ⟨-, hsound, -⟩⟩ := readMember_eq_ok_iff.mp hnext
  · obtain ⟨member, hmember, value, hvalue⟩ := exists_read_of_put? hput
    exact (hsteady member hmember).codec_steady.read_fault value hvalue
  · cases hsound

theorem scan_of_blanks {rest : Bytes} (h : rest.all isBlank = true) :
    scan false rest = some false := by
  have hrest := scan_blanks (List.all_eq_true.mp h) false []
  rwa [List.append_nil] at hrest

/-- **An object is read by what the reader makes of its members.** -/
theorem Codec.ofText_object_iff {name : String} {schema : List Member}
    (hsteady : ∀ member ∈ schema, member.Steady) (hwords : WordsNamed name schema)
    {own text : Bytes} {found : List (Bytes × Json)} (h : Laid (.object own found))
    (htext : Spaced (.object own found) text) {values : Record schema} :
    (Codec.record schema).ofText text = .ok values ↔
      ∃ slots, (seenMembers (.record (fields schema)) found).foldlM (Slots.readMember schema)
          (Slots.empty schema) = .ok slots ∧ Slots.finish schema slots = .ok values := by
  obtain ⟨front, back, hfront, hback, rfl⟩ := htext
  have hblanks : back.all isBlank = true := List.all_eq_true.mpr hback
  obtain ⟨fuel, hfuel, hparse⟩ : ∃ fuel, own.length < fuel ∧
      parse (Codec.record schema).shape (front ++ ((Json.object own found).text ++ back)) =
        value (fuel + 1) (.record (fields schema)) (own ++ back) := by
    refine ⟨2 * (front ++ (own ++ back)).length + 1, ?_, value_blanks hfront _ _ _⟩
    simp only [List.length_append]
    omega
  rw [Codec.ofText_eq_ok_iff, hparse]
  cases h with
  | @noMembers gap hgap =>
      rw [value_noMembers hgap]
      constructor
      · rintro ⟨tree, rest, hvalue, -, hread⟩
        obtain ⟨rfl, -⟩ := Prod.mk.inj hvalue
        exact bind_eq_ok.mp hread
      · intro hread
        exact ⟨_, back, rfl, hblanks, bind_eq_ok.mpr hread⟩
  | @object inner found hfound =>
      have hinner : inner.length + 1 < fuel := by
        simp only [List.length_append, List.length_cons] at hfuel
        omega
      rcases hfound.read hwords.hasPlainWords hinner (scan_of_blanks hblanks) with
        hmembers | ⟨hfault, hlost⟩
      · rw [hfound.value_eq hmembers]
        constructor
        · rintro ⟨tree, rest, hvalue, -, hread⟩
          obtain ⟨rfl, -⟩ := Prod.mk.inj hvalue
          exact bind_eq_ok.mp hread
        · intro hread
          exact ⟨_, back, rfl, hblanks, bind_eq_ok.mpr hread⟩
      · constructor
        · rintro ⟨tree, rest, hvalue, hrest, hread⟩
          rw [List.cons_append, List.append_assoc, value_object_iff] at hvalue
          rcases hvalue with ⟨hbrace, -⟩ | ⟨-, found', hfound', rfl⟩
          · exact absurd hbrace (hfound.skipBlanks_ne _ _)
          · obtain ⟨slots, hslots, -⟩ := bind_eq_ok.mp hread
            exact absurd (scan_of_blanks hrest) (hlost found' rest hfound' (hwords.oneWord hslots))
        · rintro ⟨slots, hslots, -⟩
          exact absurd hslots (Slots.foldlM_ne_ok_of_fault hsteady hfault)

/-- **The layout of an object does not matter.** -/
theorem Codec.ofText_of_rearranged {name : String} {schema : List Member}
    (hsteady : ∀ member ∈ schema, member.Steady) (hwords : WordsNamed name schema)
    {own own' text text' : Bytes} {found found' : List (Bytes × Json)}
    (h : Laid (.object own found)) (h' : Laid (.object own' found'))
    (htext : Spaced (.object own found) text) (htext' : Spaced (.object own' found') text')
    (hrearranged : Rearranged (Codec.record schema).shape (.object own found) (.object own' found'))
    {values : Record schema} (hread : (Codec.record schema).ofText text = .ok values) :
    (Codec.record schema).ofText text' = .ok values := by
  obtain ⟨slots, hslots, hfinish⟩ := (ofText_object_iff hsteady hwords h htext).mp hread
  refine (ofText_object_iff hsteady hwords h' htext').mpr ⟨slots, ?_, hfinish⟩
  exact Slots.foldlM_rearranged hsteady h h' hrearranged hslots

end RollupWallet.Json
