import Mathlib
import RollupWallet.Proofs.Json.MemberOrder
import RollupWallet.Proofs.Json.WordArray

/-!
# Texts in another layout

Two texts say the same if their trees differ by blanks only, and where a record is expected also by
the order of the members of an object and by members of names that the record does not have
(`Rearranged`).  Blanks are compared with the texts of arrays and objects left out (`bare`).

A codec is steady if it reads the same value from both (`Codec.Steady`).  What is no array and no
object has no blanks in it, so codecs that read neither are steady at once.  The others go item by
item: bytes, words and signatures read items that are numbers.  Only amounts look at the text of a
tree, and the text of an array or an object is no amount (`Codec.not_nested_of_read_amount`).

Steadiness is about what the reader makes of a tree where a word may be expected (`seen`), which
does not go by blanks either (`seen_of_bare`).
-/

namespace RollupWallet.Json

variable {α β : Type}

/-! ### Trees without blanks -/

mutual

/-- A tree without the texts of its arrays and objects, and so without all blanks. -/
def bare : Json → Json
  | .array _ items => .array [] (bareItems items)
  | .object _ members => .object [] (bareMembers members)
  | tree => tree
termination_by structural tree => tree

/-- Items without blanks. -/
def bareItems : List Json → List Json
  | [] => []
  | item :: items => item.bare :: bareItems items
termination_by structural items => items

/-- Members without blanks. -/
def bareMembers : List (Bytes × Json) → List (Bytes × Json)
  | [] => []
  | (key, value) :: members => (key, value.bare) :: bareMembers members
termination_by structural members => members

end

theorem isNested_bare (tree : Json) : tree.bare.isNested = tree.isNested := by
  cases tree <;> rfl

theorem bare_of_not_nested {tree : Json} (h : tree.isNested = false) : tree.bare = tree := by
  cases tree <;> first | rfl | cases h

/-- What is no array and no object has no blanks in it. -/
theorem eq_of_bare {tree tree' : Json} (h : tree.bare = tree'.bare)
    (htree : tree.isNested = false) : tree' = tree := by
  have htree' : tree'.isNested = false := by rw [← isNested_bare, ← h, isNested_bare, htree]
  rw [← bare_of_not_nested htree, h, bare_of_not_nested htree']

theorem exists_array_of_bare {own : Bytes} {items : List Json} {tree' : Json}
    (h : (Json.array own items).bare = tree'.bare) :
    ∃ own' items', tree' = .array own' items' ∧ bareItems items = bareItems items' := by
  cases tree' with
  | array own' items' => exact ⟨own', items', rfl, (Json.array.inj h).2⟩
  | _ => cases h

theorem bareItems_eq_map (items : List Json) : bareItems items = items.map bare := by
  induction items with
  | nil => rfl
  | cons item items ih => rw [bareItems, ih, List.map_cons]

theorem eq_nil_of_bare {items' : List Json} (h : bareItems [] = bareItems items') :
    items' = [] := by
  cases items' with
  | nil => rfl
  | cons => cases h

theorem exists_cons_of_bare {item : Json} {items items' : List Json}
    (h : bareItems (item :: items) = bareItems items') :
    ∃ item' others, items' = item' :: others ∧ item.bare = item'.bare ∧
      bareItems items = bareItems others := by
  cases items' with
  | nil => cases h
  | cons item' others => exact ⟨item', others, rfl, List.cons.inj h⟩

/-- Members that differ by blanks stand in pairs. -/
theorem exists_pairs_of_bare {found found' : List (Bytes × Json)}
    (h : bareMembers found = bareMembers found') :
    ∃ pairs : List (Bytes × Json × Json), found = pairs.map (fun m => (m.1, m.2.1)) ∧
      found' = pairs.map (fun m => (m.1, m.2.2)) ∧ ∀ m ∈ pairs, m.2.1.bare = m.2.2.bare := by
  induction found generalizing found' with
  | nil =>
      cases found' with
      | nil => exact ⟨[], rfl, rfl, nofun⟩
      | cons m found' => cases h
  | cons m found ih =>
      cases found' with
      | nil => cases h
      | cons m' found' =>
          obtain ⟨key, tree⟩ := m
          obtain ⟨key', tree'⟩ := m'
          obtain ⟨hfirst, hothers⟩ := List.cons.inj h
          obtain ⟨rfl, htree⟩ := Prod.mk.inj hfirst
          obtain ⟨pairs, rfl, rfl, hpairs⟩ := ih hothers
          exact ⟨(key, tree, tree') :: pairs, rfl, rfl, List.forall_mem_cons.mpr ⟨htree, hpairs⟩⟩

/-! ### Rearrangements -/

/-- A tree in another layout.  It differs by blanks, and where a record is expected also by the
order of the members of an object and by members of names that the record does not have; the values
of the other members may be rearranged in their turn.  A name is a string: a key that writes half of
a pair of units has none. -/
inductive Rearranged : Shape → Json → Json → Prop where
  | blanks {shape : Shape} {tree tree' : Json} (h : tree.bare = tree'.bare) :
      Rearranged shape tree tree'
  | object {fields : List (String × Shape)} {own own' : Bytes}
      {pairs : List (Bytes × Json × Json)} {added found' : List (Bytes × Json)}
      (hpairs : ∀ m ∈ pairs,
        Rearranged ((Shape.record fields).member (Literal.string? m.1)) m.2.1 m.2.2)
      (hadded : ∀ m ∈ added, ∃ name, Literal.string? m.1 = some name ∧
        name ∉ fields.map Prod.fst)
      (horder : found'.Perm (pairs.map (fun m => (m.1, m.2.2)) ++ added)) :
      Rearranged (.record fields) (.object own (pairs.map fun m => (m.1, m.2.1)))
        (.object own' found')

/-- An object with the same members in another order and with others among them. -/
theorem Rearranged.of_perm {fields : List (String × Shape)} {own own' : Bytes}
    {found added found' : List (Bytes × Json)}
    (hadded : ∀ m ∈ added, ∃ name, Literal.string? m.1 = some name ∧ name ∉ fields.map Prod.fst)
    (horder : found'.Perm (found ++ added)) :
    Rearranged (.record fields) (.object own found) (.object own' found') := by
  obtain ⟨pairs, hfound, hfound', hpairs⟩ := exists_pairs_of_bare (rfl : bareMembers found = _)
  rw [hfound'] at horder
  rw [hfound]
  exact .object (fun m hm => .blanks (hpairs m hm)) hadded horder

/-- An object in another layout has the old members and others, in some order. -/
theorem Rearranged.exists_pairs {fields : List (String × Shape)} {own own' : Bytes}
    {found found' : List (Bytes × Json)}
    (h : Rearranged (.record fields) (.object own found) (.object own' found')) :
    ∃ (pairs : List (Bytes × Json × Json)) (added : List (Bytes × Json)),
      found = pairs.map (fun m => (m.1, m.2.1)) ∧
      (∀ m ∈ pairs, Rearranged ((Shape.record fields).member (Literal.string? m.1)) m.2.1 m.2.2) ∧
      (∀ m ∈ added, ∃ name, Literal.string? m.1 = some name ∧ name ∉ fields.map Prod.fst) ∧
      found'.Perm (pairs.map (fun m => (m.1, m.2.2)) ++ added) := by
  cases h with
  | blanks h =>
      obtain ⟨pairs, rfl, rfl, hpairs⟩ := exists_pairs_of_bare (Json.object.inj h).2
      refine ⟨pairs, [], rfl, fun m hm => .blanks (hpairs m hm), nofun, ?_⟩
      rw [List.append_nil]
  | @object _ _ _ pairs added _ hpairs hadded horder =>
      exact ⟨pairs, added, rfl, hpairs, hadded, horder⟩

/-- Only an object is a rearrangement of an object. -/
theorem Rearranged.exists_object {shape : Shape} {own : Bytes} {found : List (Bytes × Json)}
    {tree' : Json} (h : Rearranged shape (.object own found) tree') :
    ∃ own' found', tree' = .object own' found' := by
  cases h with
  | blanks h =>
      cases tree' with
      | object own' found' => exact ⟨own', found', rfl⟩
      | _ => cases h
  | object => exact ⟨_, _, rfl⟩

/-- Where no record is expected, only blanks may differ. -/
theorem Rearranged.bare_eq {shape : Shape} {tree tree' : Json} (h : Rearranged shape tree tree')
    (hshape : ∀ fields, shape ≠ .record fields) : tree.bare = tree'.bare := by
  cases h with
  | blanks h => exact h
  | object => exact absurd rfl (hshape _)

/-! ### Codecs that do not go by the layout -/

/-- A codec takes no fault for a value, and what it reads from a text it reads from the text in
another layout. -/
class Codec.Steady (codec : Codec α) : Prop where
  read_fault : ∀ a, codec.read .fault ≠ .ok a
  read_rearranged : ∀ {tree tree' : Json}, Laid tree → Laid tree' →
    Rearranged codec.shape tree tree' → ∀ {a}, codec.read (seen codec.shape tree) = .ok a →
      codec.read (seen codec.shape tree') = .ok a

theorem not_passes_of_nested {tree : Json} (h : tree.isNested = true) : tree.passes = false := by
  cases tree <;> first | rfl | cases h

/-- Whether an item is passed over does not go by blanks. -/
theorem passes_of_bare {tree tree' : Json} (h : tree.bare = tree'.bare) :
    tree.passes = tree'.passes := by
  by_cases htree : tree.isNested = true
  · have htree' : tree'.isNested = true := by rw [← isNested_bare, ← h, isNested_bare, htree]
    rw [not_passes_of_nested htree, not_passes_of_nested htree']
  · rw [eq_of_bare h (Bool.eq_false_iff.mpr htree)]

/-- What the reader makes of items does not go by blanks. -/
theorem seenItems_of_bare {found found' : List Json} (h : bareItems found = bareItems found')
    (remaining : ℕ) :
    (seenItems remaining found).map bareItems = (seenItems remaining found').map bareItems := by
  induction remaining generalizing found found' with
  | zero =>
      rcases found with _ | ⟨item, found⟩
      · rw [eq_nil_of_bare h]
      · obtain ⟨item', found', rfl, hitem, hothers⟩ := exists_cons_of_bare h
        rcases found with _ | ⟨second, found⟩
        · rw [eq_nil_of_bare hothers, seenItems, seenItems, passes_of_bare hitem]
        · obtain ⟨second', found', rfl, -⟩ := exists_cons_of_bare hothers
          rfl
  | succ remaining ih =>
      rcases found with _ | ⟨item, found⟩
      · rw [eq_nil_of_bare h]
      · obtain ⟨item', found', rfl, hitem, hothers⟩ := exists_cons_of_bare h
        have hcons (tree : Json) : bareItems ∘ (tree :: ·) = (tree.bare :: ·) ∘ bareItems := rfl
        simp only [seenItems, Option.map_eq_map, Option.map_map, hcons]
        rw [← Option.map_map, ← Option.map_map, ih hothers, hitem]

theorem seen_of_bare (shape : Shape) {tree tree' : Json} (h : tree.bare = tree'.bare) :
    (seen shape tree).bare = (seen shape tree').bare := by
  cases shape with
  | word length =>
      cases tree with
      | array own found =>
          obtain ⟨own', found', rfl, hfound⟩ := exists_array_of_bare h
          have hseen := seenItems_of_bare hfound length
          rw [seen, seen]
          cases hread : seenItems length found with
          | none =>
              rw [hread, Option.map_none] at hseen
              rw [Option.map_eq_none_iff.mp hseen.symm]
          | some read =>
              rw [hread, Option.map_some] at hseen
              obtain ⟨read', hread', hbare⟩ := Option.map_eq_some_iff.mp hseen.symm
              rw [hread']
              exact congrArg (Json.array []) hbare.symm
      | _ =>
          cases tree' with
          | array => cases h
          | _ => exact h
  | _ => exact h

theorem seen_ne_null (shape : Shape) {tree : Json} (h : tree ≠ .null) :
    seen shape tree ≠ .null := by
  unfold seen
  split
  · split
    · exact nofun
    · exact nofun
  · exact h

/-- A rearrangement of `null` is `null`, and of nothing else. -/
theorem Rearranged.eq_null_iff {shape : Shape} {tree tree' : Json}
    (h : Rearranged shape tree tree') : tree = .null ↔ tree' = .null := by
  cases h with
  | blanks h =>
      constructor
      · rintro rfl
        exact eq_of_bare h rfl
      · rintro rfl
        exact eq_of_bare h.symm rfl
  | object => exact iff_of_false nofun nofun

namespace Codec

/-- A codec that reads no records and does not go by blanks. -/
theorem Steady.of_bare {codec : Codec α} (hshape : ∀ fields, codec.shape ≠ .record fields)
    (hfault : ∀ a, codec.read .fault ≠ .ok a)
    (hread : ∀ {tree tree' : Json} {a : α}, tree.bare = tree'.bare → codec.read tree = .ok a →
      codec.read tree' = .ok a) : codec.Steady where
  read_fault := hfault
  read_rearranged _ _ h _ htree := hread (seen_of_bare _ (h.bare_eq hshape)) htree

theorem Steady.refine {codec : Codec α} (h : codec.Steady) (decode : α → Except Fault β)
    (encode : β → α) : (codec.refine decode encode).Steady where
  read_fault b hb := by
    obtain ⟨a, ha, -⟩ := bind_eq_ok.mp hb
    exact h.read_fault a ha
  read_rearranged htree htree' hrearranged b hb := by
    obtain ⟨a, ha, hdecode⟩ := bind_eq_ok.mp hb
    exact bind_eq_ok.mpr ⟨a, h.read_rearranged htree htree' hrearranged ha, hdecode⟩

theorem Steady.imap {codec : Codec α} (h : codec.Steady) (decode : α → β) (encode : β → α) :
    (codec.imap decode encode).Steady where
  read_fault b hb := by
    obtain ⟨a, ha, -⟩ := map_eq_ok.mp hb
    exact h.read_fault a ha
  read_rearranged htree htree' hrearranged b hb := by
    obtain ⟨a, ha, hdecode⟩ := map_eq_ok.mp hb
    exact map_eq_ok.mpr ⟨a, h.read_rearranged htree htree' hrearranged ha, hdecode⟩

theorem Steady.checked {codec : Codec α} (h : codec.Steady) (decode : α → Except InvalidInput β)
    (encode : β → α) : (codec.checked decode encode).Steady :=
  h.refine _ encode

instance (codec : Codec α) [codec.Steady] : codec.optional.Steady where
  read_fault a ha := by
    obtain ⟨value, hvalue, -⟩ := map_eq_ok.mp ha
    exact Steady.read_fault value hvalue
  read_rearranged := by
    intro tree tree' htree htree' h a ha
    by_cases hnull : tree = .null
    · rwa [h.eq_null_iff.mp hnull, ← hnull]
    · rw [read_optional codec (seen_ne_null _ hnull)] at ha
      rw [read_optional codec (seen_ne_null _ (mt h.eq_null_iff.mpr hnull))]
      obtain ⟨value, hvalue, hsome⟩ := map_eq_ok.mp ha
      exact map_eq_ok.mpr ⟨value, ‹codec.Steady›.read_rearranged htree htree' h hvalue, hsome⟩

theorem not_nested_of_read_integer {tree : Json} {n : ℤ} (h : integer.read tree = .ok n) :
    tree.isNested = false := by
  cases tree <;> first | rfl | cases h

instance : integer.Steady :=
  .of_bare nofun nofun fun h htree => by rwa [eq_of_bare h (not_nested_of_read_integer htree)]

instance : string.Steady :=
  .of_bare nofun nofun fun h htree => by
    obtain ⟨raw, rfl, -⟩ := string?_of_read htree
    rwa [eq_of_bare h rfl]

instance : int64.Steady := Steady.refine inferInstance _ _

instance (bound : ℕ) : (below bound).Steady := Steady.refine inferInstance _ _

theorem bytesOfItems_of_bare {items items' : List Json} (h : bareItems items = bareItems items')
    {bytes : Bytes} (hread : bytesOfItems items = .ok bytes) : bytesOfItems items' = .ok bytes := by
  induction items generalizing items' bytes with
  | nil => rwa [eq_nil_of_bare h]
  | cons item items ih =>
      obtain ⟨item', items', rfl, hitem, hitems⟩ := exists_cons_of_bare h
      unfold bytesOfItems at hread ih ⊢
      rw [List.mapM_cons] at hread ⊢
      obtain ⟨byte, hbyte, hread⟩ := bind_eq_ok.mp hread
      obtain ⟨others, hothers, hread⟩ := bind_eq_ok.mp hread
      have hnested : item.isNested = false := by
        obtain ⟨n, hn, -⟩ := map_eq_ok.mp hbyte
        obtain ⟨n, hn, -⟩ := bind_eq_ok.mp hn
        exact not_nested_of_read_integer hn
      rw [eq_of_bare hitem hnested]
      exact bind_eq_ok.mpr ⟨byte, hbyte, bind_eq_ok.mpr ⟨others, ih hitems hothers, hread⟩⟩

instance : bytes.Steady :=
  .of_bare nofun nofun fun {tree tree' b} h htree => by
    cases tree with
    | array own items =>
        obtain ⟨own', items', rfl, hitems⟩ := exists_array_of_bare h
        exact bytesOfItems_of_bare hitems htree
    | object own found => cases htree
    | _ => rwa [eq_of_bare h rfl]

/-- No array and no object is an amount: their texts are no digits. -/
theorem not_nested_of_read_amount {tree : Json} (htree : Laid tree) {n : ℕ}
    (h : amount.read tree = .ok n) : tree.isNested = false := by
  have hrefused (mark : UInt8) (hmark : Text.Decimal.isDigit mark = false) (others : Bytes) :
      Text.Decimal.natural? (mark :: others) = none := by
    rw [Option.eq_none_iff_forall_ne_some]
    intro n hn
    have hall := (Text.Decimal.natural?_eq_some_iff.mp hn).2.1
    rw [List.all_cons, hmark, Bool.false_and] at hall
    exact Bool.false_ne_true hall
  unfold amount at h
  dsimp only at h
  split at h
  · cases h
  · split at h
    · cases h
    · next text htext =>
      cases htree with
      | null | bool | number | string => rfl
      | noItems | array =>
          dsimp only [Json.text] at h
          rw [hrefused 91 (by decide)] at h
          cases h
      | noMembers | object =>
          dsimp only [Json.text] at h
          rw [hrefused 123 (by decide)] at h
          cases h

instance : amount.Steady where
  read_fault := nofun
  read_rearranged htree htree' h n hn := by
    have hseen (tree : Json) : seen amount.shape tree = tree := seen_of_wordless .any tree
    rw [hseen] at hn ⊢
    rwa [eq_of_bare (h.bare_eq nofun) (not_nested_of_read_amount htree hn)]

/-- A word is read from an array of its bytes, behind which there may be a gap. -/
theorem read_word_array_eq_ok {n : ℕ} {own : Bytes} {items : List Json} {w : FixedBytes n} :
    (word n).read (.array own items) = .ok w ↔
      ∃ b, (items.drop n = [] ∧ bytesOfItems items = .ok b ∨
          items.drop n = [.gap] ∧ bytesOfItems (items.take n) = .ok b) ∧
        FixedBytes.ofBytes? n b = some w := by
  unfold word
  dsimp only
  constructor
  · intro h
    split at h
    · next hnil =>
      obtain ⟨b, hb, hw⟩ := bind_eq_ok.mp h
      refine ⟨b, Or.inl ⟨hnil, hb⟩, ?_⟩
      split at hw
      · next hread => rw [hread, Except.ok.inj hw]
      · cases hw
    · next hgap =>
      obtain ⟨b, hb, hw⟩ := bind_eq_ok.mp h
      refine ⟨b, Or.inr ⟨hgap, hb⟩, ?_⟩
      split at hw
      · next hread => rw [hread, Except.ok.inj hw]
      · cases hw
    · cases h
  · rintro ⟨b, ⟨hnil, hb⟩ | ⟨hgap, hb⟩, hw⟩
    · simp only [hnil]
      exact bind_eq_ok.mpr ⟨b, hb, by rw [hw]; rfl⟩
    · simp only [hgap]
      exact bind_eq_ok.mpr ⟨b, hb, by rw [hw]; rfl⟩

instance (n : ℕ) : (word n).Steady :=
  .of_bare nofun nofun fun {tree tree' w} h htree => by
    cases tree with
    | array own items =>
        obtain ⟨own', items', rfl, hitems⟩ := exists_array_of_bare h
        obtain ⟨b, hb, hw⟩ := read_word_array_eq_ok.mp htree
        refine read_word_array_eq_ok.mpr ⟨b, ?_, hw⟩
        have hmap : items.map bare = items'.map bare := by
          rw [← bareItems_eq_map, hitems, bareItems_eq_map]
        have htake : bareItems (items.take n) = bareItems (items'.take n) := by
          rw [bareItems_eq_map, bareItems_eq_map, List.map_take, List.map_take, hmap]
        have hdrop : bareItems (items.drop n) = bareItems (items'.drop n) := by
          rw [bareItems_eq_map, bareItems_eq_map, List.map_drop, List.map_drop, hmap]
        rcases hb with ⟨hnil, hb⟩ | ⟨hgap, hb⟩
        · rw [hnil] at hdrop
          exact Or.inl ⟨eq_nil_of_bare hdrop, bytesOfItems_of_bare hitems hb⟩
        · rw [hgap] at hdrop
          obtain ⟨last, others, heq, hlast, hothers⟩ := exists_cons_of_bare hdrop
          rw [eq_of_bare hlast rfl, eq_nil_of_bare hothers] at heq
          exact Or.inr ⟨heq, bytesOfItems_of_bare htake hb⟩
    | object own found => cases htree
    | _ => rwa [eq_of_bare h rfl]

end Codec

end RollupWallet.Json
