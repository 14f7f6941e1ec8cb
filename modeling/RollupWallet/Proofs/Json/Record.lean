import Mathlib
import RollupWallet.Json.Record
import RollupWallet.Proofs.Error
import RollupWallet.Proofs.Json.Codec

/-!
# Records are read back from their objects

The codec of a schema is lawful if the codecs of its members are, if values that are not written are
the defaults, and if the names are distinct and need no escapes (`WellNamed`, `Codec.lawful_record`).

Reading goes through the members of the text with a slot for each member of the schema.  The
induction is on the schema: the first member fills its own slot, and all others leave it alone,
because their names are different (`Slots.foldlM_tail`).  So in the end a slot holds what was
written, or nothing where nothing was written (`Slots.ofRecord`), and there the default is the value.

Of an object that was written for another schema, or by anyone, less can be said: members of unknown
names are skipped, and only the members without a default must be there
(`Codec.exists_key_of_read`).  The invariant of the reading is by name: no slot is filled but by a
member of its name.  That keeps two schemas apart of which one has such a member and the other never
writes it (`Lacks`).
-/

namespace RollupWallet.Json

/-- A member keeps its values: its codec is lawful, and what is not written is the default. -/
class Member.Lawful (member : Member) : Prop where
  codec_lawful : member.codec.Lawful
  default_of_hidden : ∀ value, member.isHidden value = true → member.default? = some value

namespace Member

variable {α : Type} (name : String) (codec : Codec α)

instance [codec.Lawful] : (required name codec).Lawful where
  codec_lawful := ‹codec.Lawful›
  default_of_hidden _ := nofun

instance [codec.Lawful] (value : α) : (withDefault name codec value).Lawful where
  codec_lawful := ‹codec.Lawful›
  default_of_hidden _ := nofun

instance [codec.Lawful] [codec.NeverNull] : (nullable name codec).Lawful :=
  inferInstanceAs (withDefault name codec.optional none).Lawful

instance [codec.Lawful] [codec.NeverNull] : (omittable name codec).Lawful where
  codec_lawful := inferInstanceAs codec.optional.Lawful
  default_of_hidden value hhidden := by
    cases value with
    | none => rfl
    | some value => exact absurd hhidden Bool.false_ne_true

end Member

/-- All members of a schema keep their values. -/
class LawfulMembers (schema : List Member) : Prop where
  lawful : ∀ member ∈ schema, member.Lawful

instance : LawfulMembers [] := ⟨nofun⟩

instance (member : Member) (members : List Member) [member.Lawful] [LawfulMembers members] :
    LawfulMembers (member :: members) where
  lawful := List.forall_mem_cons.mpr ⟨inferInstance, LawfulMembers.lawful⟩

/-- The raw keys under which the members of a schema are written. -/
def rawKeys (schema : List Member) : List Bytes := schema.map fun member => Text.utf8 member.name

/-- The names of a schema are distinct, and they are made of letters, digits and underscores. -/
def WellNamed (schema : List Member) : Prop :=
  (rawKeys schema).Nodup ∧ ∀ member ∈ schema, member.name.toList.all Literal.isNameChar = true

instance (schema : List Member) : Decidable (WellNamed schema) :=
  inferInstanceAs (Decidable (_ ∧ _))

namespace WellNamed

variable {schema members : List Member} {member : Member}

theorem tail (h : WellNamed (member :: members)) : WellNamed members :=
  ⟨(List.nodup_cons.mp h.1).2, fun other hother => h.2 other (List.mem_cons_of_mem _ hother)⟩

theorem ne_head (h : WellNamed (member :: members)) {other : Member} (hother : other ∈ members) :
    other.name ≠ member.name := by
  intro heq
  have hmem : Text.utf8 other.name ∈ rawKeys members := List.mem_map_of_mem hother
  rw [heq] at hmem
  exact (List.nodup_cons.mp h.1).1 hmem

/-- The key of a member is written without escapes. -/
theorem encode_name (h : WellNamed schema) (hmember : member ∈ schema) :
    Literal.encode (Text.utf8 member.name) = Text.utf8 member.name :=
  Literal.encode_of_isName (h.2 member hmember)

/-- The name of a member is read back from its raw key. -/
theorem string?_name (h : WellNamed schema) (hmember : member ∈ schema) :
    Literal.string? (Text.utf8 member.name) = some member.name := by
  have hread := Literal.string?_encode_utf8 member.name
  rw [h.encode_name hmember] at hread
  exact hread

end WellNamed

/-! ### Members in the text -/

/-- What is written for a record are members of the schema under their names. -/
theorem Record.mem_toMembers {schema : List Member} {values : Record schema}
    {entry : Bytes × Json} (h : entry ∈ Record.toMembers schema values) :
    ∃ member ∈ schema, ∃ value, entry = (Text.utf8 member.name, member.codec.write value) := by
  induction schema with
  | nil => exact absurd h List.not_mem_nil
  | cons member members ih =>
      obtain ⟨value, values⟩ := values
      rw [Record.toMembers] at h
      split at h
      · obtain ⟨other, hother, hentry⟩ := ih h
        exact ⟨other, List.mem_cons_of_mem _ hother, hentry⟩
      · rcases List.mem_cons.mp h with rfl | h
        · exact ⟨member, List.mem_cons_self, value, rfl⟩
        · obtain ⟨other, hother, hentry⟩ := ih h
          exact ⟨other, List.mem_cons_of_mem _ hother, hentry⟩

namespace Slots

/-- The slots once a record has been read: empty where nothing is written. -/
def ofRecord : (schema : List Member) → Record schema → Slots schema
  | [], () => ()
  | member :: members, (value, values) =>
    (if member.isHidden value then none else some value, ofRecord members values)

/-- A member of another name leaves the first slot alone. -/
theorem readMember_tail {member : Member} {members : List Member} (slot : Option member.Value)
    (slots : Slots members) {entry : Bytes × Json} {name : String}
    (hname : Literal.string? entry.1 = some name) (hne : name ≠ member.name) :
    readMember (member :: members) (slot, slots) entry =
      (slot, ·) <$> readMember members slots entry := by
  unfold readMember
  simp only [hname]
  simp only [put?, if_neg hne]
  -- a name that no member has is skipped in both schemas
  cases put? name entry.2 members slots with
  | error fault => rfl
  | ok found =>
      cases found with
      | some found => rfl
      | none =>
        show (if entry.2.isSound then _ else _) = _ <$> (if entry.2.isSound then _ else _)
        split <;> rfl

/-- Members of other names leave the first slot alone. -/
theorem foldlM_tail {member : Member} {members : List Member} (slot : Option member.Value)
    {entries : List (Bytes × Json)}
    (h : ∀ entry ∈ entries, ∃ name, Literal.string? entry.1 = some name ∧ name ≠ member.name) :
    ∀ slots : Slots members, entries.foldlM (readMember (member :: members)) (slot, slots) =
      (slot, ·) <$> entries.foldlM (readMember members) slots := by
  induction entries with
  | nil => intro slots; rfl
  | cons entry entries ih =>
      intro slots
      obtain ⟨name, hname, hne⟩ := h entry List.mem_cons_self
      rw [List.foldlM_cons, List.foldlM_cons, readMember_tail slot slots hname hne]
      cases readMember members slots entry with
      | error fault => rfl
      | ok slots' => exact ih (fun e he => h e (List.mem_cons_of_mem _ he)) slots'

/-- **The members that a record writes fill its slots.** -/
theorem foldlM_toMembers {schema : List Member} (hnames : WellNamed schema)
    (hlawful : ∀ member ∈ schema, member.Lawful) (values : Record schema) :
    (Record.toMembers schema values).foldlM (readMember schema) (empty schema) =
      .ok (ofRecord schema values) := by
  induction schema with
  | nil => rfl
  | cons member members ih =>
      obtain ⟨value, values⟩ := values
      have hothers : ∀ entry ∈ Record.toMembers members values,
          ∃ name, Literal.string? entry.1 = some name ∧ name ≠ member.name := by
        intro entry hentry
        obtain ⟨other, hother, _, rfl⟩ := Record.mem_toMembers hentry
        exact ⟨other.name, hnames.tail.string?_name hother, hnames.ne_head hother⟩
      have htail := ih hnames.tail (fun m hm => hlawful m (List.mem_cons_of_mem _ hm)) values
      rw [Record.toMembers, empty, ofRecord]
      -- a hidden value leaves its slot empty, any other one fills it first of all
      split
      · rw [foldlM_tail none hothers, htail]
        rfl
      · have hfirst : readMember (member :: members) (none, empty members)
            (Text.utf8 member.name, member.codec.write value) = .ok (some value, empty members) := by
          have hread := ((hlawful member List.mem_cons_self).codec_lawful.keeps value).read_write
          unfold readMember
          simp only [hnames.string?_name List.mem_cons_self]
          rw [put?, if_pos rfl, hread]
          rfl
        rw [List.foldlM_cons, hfirst]
        show (Record.toMembers members values).foldlM _ (some value, empty members) = _
        rw [foldlM_tail (some value) hothers, htail]
        rfl

/-- Defaults stand in where nothing was written. -/
theorem finish_ofRecord {schema : List Member} (hlawful : ∀ member ∈ schema, member.Lawful)
    (values : Record schema) : finish schema (ofRecord schema values) = .ok values := by
  induction schema with
  | nil => rfl
  | cons member members ih =>
      obtain ⟨value, values⟩ := values
      have htail := ih (fun m hm => hlawful m (List.mem_cons_of_mem _ hm)) values
      rw [ofRecord, finish]
      by_cases hhidden : member.isHidden value = true
      · have hdefault := (hlawful member List.mem_cons_self).default_of_hidden value hhidden
        rw [if_pos hhidden, hdefault, htail]
        rfl
      · rw [if_neg hhidden, htail]
        rfl

end Slots

/-- **The codec of a schema is lawful.** -/
theorem Codec.lawful_record {schema : List Member} (hnames : WellNamed schema)
    [hmembers : LawfulMembers schema] : (Codec.record schema).Lawful where
  keeps values := by
    refine ⟨Compact.object _ ?_ ?_, ?_⟩
    · intro entry hentry
      obtain ⟨member, hmember, _, rfl⟩ := Record.mem_toMembers hentry
      exact ⟨_, (hnames.encode_name hmember).symm⟩
    · intro entry hentry
      obtain ⟨member, hmember, value, rfl⟩ := Record.mem_toMembers hentry
      exact ((hmembers.lawful member hmember).codec_lawful.keeps value).compact
    · show (Record.toMembers schema values).foldlM (Slots.readMember schema) (Slots.empty schema) >>=
        Slots.finish schema = _
      rw [Slots.foldlM_toMembers hnames hmembers.lawful]
      exact Slots.finish_ofRecord hmembers.lawful values

/-! ### Members that must be there -/

namespace Slots

/-- Whether a member with a name has been read. -/
def isFilled (name : String) : (schema : List Member) → Slots schema → Bool
  | [], () => false
  | member :: members, (slot, slots) =>
    (member.name = name && slot.isSome) || isFilled name members slots

theorem isFilled_empty (name : String) (schema : List Member) :
    isFilled name schema (empty schema) = false := by
  induction schema with
  | nil => rfl
  | cons member members ih => simp only [isFilled, empty, ih, Option.isSome_none, Bool.and_false,
      Bool.or_false]

/-- Reading a value fills no slot of another name. -/
theorem isFilled_of_put? {name key : String} (hkey : key ≠ name) {tree : Json}
    {schema : List Member} {slots slots' : Slots schema}
    (h : put? key tree schema slots = .ok (some slots')) :
    isFilled name schema slots' = isFilled name schema slots := by
  induction schema with
  | nil => cases h
  | cons member members ih =>
      obtain ⟨slot, slots⟩ := slots
      unfold put? at h
      split at h
      · next heq =>
        have hname : member.name ≠ name := heq ▸ hkey
        cases slot with
        | some value => cases h
        | none =>
            obtain ⟨value, -, h⟩ := bind_eq_ok.mp h
            cases h
            simp only [isFilled, hname, decide_false, Bool.false_and]
      · obtain ⟨found, hfound, h⟩ := bind_eq_ok.mp h
        cases found with
        | none => cases h
        | some found =>
            cases h
            simp only [isFilled, ih hfound]

theorem isFilled_of_readMember {name : String} {schema : List Member} {slots slots' : Slots schema}
    {entry : Bytes × Json} (hkey : Literal.string? entry.1 ≠ some name)
    (h : readMember schema slots entry = .ok slots') :
    isFilled name schema slots' = isFilled name schema slots := by
  unfold readMember at h
  split at h
  · cases h
  · next key hread =>
    have hne : key ≠ name := fun heq => hkey (heq ▸ hread)
    obtain ⟨found, hfound, h⟩ := bind_eq_ok.mp h
    cases found with
    | some found =>
        cases h
        exact isFilled_of_put? hne hfound
    | none =>
        dsimp only at h
        split at h
        · cases h
          rfl
        · cases h

/-- A name that no member of an object has leaves its slot as it is. -/
theorem isFilled_of_foldlM {name : String} {schema : List Member} {entries : List (Bytes × Json)}
    (hkeys : ∀ entry ∈ entries, Literal.string? entry.1 ≠ some name) {slots slots' : Slots schema}
    (h : entries.foldlM (readMember schema) slots = .ok slots') :
    isFilled name schema slots' = isFilled name schema slots := by
  induction entries generalizing slots with
  | nil =>
      cases h
      rfl
  | cons entry entries ih =>
      rw [List.foldlM_cons] at h
      obtain ⟨next, hnext, h⟩ := bind_eq_ok.mp h
      rw [ih (fun e he => hkeys e (List.mem_cons_of_mem _ he)) h,
        isFilled_of_readMember (hkeys entry List.mem_cons_self) hnext]

/-- At the end of an object every member without a default has been read. -/
theorem isFilled_of_finish {schema : List Member} {slots : Slots schema} {values : Record schema}
    (h : finish schema slots = .ok values) {member : Member} (hmember : member ∈ schema)
    (hrequired : member.default?.isNone = true) : isFilled member.name schema slots = true := by
  induction schema with
  | nil => exact absurd hmember List.not_mem_nil
  | cons first members ih =>
      obtain ⟨slot, slots⟩ := slots
      rw [finish] at h
      split at h
      · cases h
      · next value hvalue =>
        obtain ⟨values, hvalues, -⟩ := bind_eq_ok.mp h
        rcases List.mem_cons.mp hmember with rfl | hmember
        · rw [Option.isNone_iff_eq_none] at hrequired
          rw [hrequired, Option.or_none] at hvalue
          simp only [isFilled, hvalue, Option.isSome_some, decide_true, Bool.and_self, Bool.true_or]
        · rw [isFilled, ih hvalues hmember, Bool.or_true]

end Slots

/-- **An object that is read holds every member without a default**, whatever else it holds. -/
theorem Codec.exists_key_of_read {schema : List Member} {text : Bytes}
    {entries : List (Bytes × Json)} {values : Record schema}
    (h : (Codec.record schema).read (.object text entries) = .ok values)
    {member : Member} (hmember : member ∈ schema) (hrequired : member.default?.isNone = true) :
    ∃ entry ∈ entries, Literal.string? entry.1 = some member.name := by
  obtain ⟨slots, hslots, hfinish⟩ := bind_eq_ok.mp h
  by_contra hkeys
  have hkeys : ∀ entry ∈ entries, Literal.string? entry.1 ≠ some member.name :=
    fun entry hentry heq => hkeys ⟨entry, hentry, heq⟩
  have hfilled := Slots.isFilled_of_finish hfinish hmember hrequired
  rw [Slots.isFilled_of_foldlM hkeys hslots, Slots.isFilled_empty] at hfilled
  exact Bool.false_ne_true hfilled

/-- A schema has a member without a default that another schema does not have at all. -/
def Lacks (reader writer : List Member) : Prop :=
  ∃ member ∈ reader, member.default?.isNone = true ∧ member.name ∉ writer.map Member.name

instance (reader writer : List Member) : Decidable (Lacks reader writer) :=
  inferInstanceAs (Decidable (∃ member ∈ reader, _))

/-- What is written for a schema is not read for another one that wants more. -/
theorem Lacks.read_write_ne_ok {reader writer : List Member} (h : Lacks reader writer)
    (hnames : WellNamed writer) (values : Record writer) (others : Record reader) :
    (Codec.record reader).read ((Codec.record writer).write values) ≠ .ok others := by
  intro hread
  obtain ⟨member, hmember, hrequired, hlacking⟩ := h
  obtain ⟨entry, hentry, hkey⟩ := Codec.exists_key_of_read hread hmember hrequired
  obtain ⟨written, hwritten, value, rfl⟩ := Record.mem_toMembers hentry
  rw [hnames.string?_name hwritten, Option.some.injEq] at hkey
  exact hlacking (hkey ▸ List.mem_map_of_mem hwritten)

end RollupWallet.Json
