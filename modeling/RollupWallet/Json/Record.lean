import RollupWallet.Json.Codec

/-!
# Records in JSON

A schema lists the members of an object in their order, each with its name, its codec, perhaps a
default, and perhaps values that are not written. A record of a schema holds one value for each
member.

An object is read in the order of its text. A known name that comes a second time is refused before
its value is looked at; members with other names are skipped, whatever they hold. When the object
has ended, the members not seen take their defaults, and the first that has none is reported. The
items of an array are read as the members in their order; defaults stand in for missing ones at the
end.
-/

namespace RollupWallet.Json

/-- A member of an object. -/
structure Member where
  Value : Type
  name : String
  codec : Codec Value
  default? : Option Value := none
  isHidden : Value → Bool := fun _ => false

/-- A member without default that is always written. -/
def Member.required {α : Type} (name : String) (codec : Codec α) : Member :=
  { Value := α, name, codec }

/-- A member with a default that is always written. -/
def Member.withDefault {α : Type} (name : String) (codec : Codec α) (value : α) : Member :=
  { Value := α, name, codec, default? := some value }

/-- A member that may be missing or `null` and is then written as `null`. -/
def Member.nullable {α : Type} (name : String) (codec : Codec α) : Member :=
  .withDefault name codec.optional none

/-- A member that may be missing or `null` and is then not written. -/
def Member.omittable {α : Type} (name : String) (codec : Codec α) : Member :=
  { Value := Option α, name, codec := codec.optional, default? := some none,
    isHidden := Option.isNone }

/-- The values of the members of a schema. -/
@[reducible] def Record : List Member → Type
  | [] => Unit
  | member :: members => member.Value × Record members

/-- The values of the members that have been read so far. -/
@[reducible] def Slots : List Member → Type
  | [] => Unit
  | member :: members => Option member.Value × Slots members

namespace Slots

/-- The state before anything is read. -/
def empty : (schema : List Member) → Slots schema
  | [] => ()
  | _ :: members => (none, empty members)

/-- Reads the value of the member with a name. A name that the schema does not have gives `none`. -/
def put? (key : String) (tree : Json) :
    (schema : List Member) → Slots schema → Except Fault (Option (Slots schema))
  | [], () => .ok none
  | member :: members, (slot, slots) =>
    if key = member.name then
      match slot with
      | some _ => .error (.duplicateMember member.name)
      | none => do
        let value ← member.codec.read tree
        pure (some (some value, slots))
    else do
      let slots ← put? key tree members slots
      pure (slots.map (slot, ·))

/-- Reads one member of an object. -/
def readMember (schema : List Member) (slots : Slots schema) (member : Bytes × Json) :
    Except Fault (Slots schema) :=
  match Literal.string? member.1 with
  | none => .error .malformed
  | some key => do
    match ← put? key member.2 schema slots with
    | some slots => pure slots
    | none => if member.2.isSound then pure slots else throw .malformed

/-- The record at the end of an object. -/
def finish : (schema : List Member) → Slots schema → Except Fault (Record schema)
  | [], () => .ok ()
  | member :: members, (slot, slots) =>
    match slot.or member.default? with
    | none => .error (.missingMember member.name)
    | some value => do
      let values ← finish members slots
      pure (value, values)

end Slots

namespace Record

/-- Reads the members from the items of an array. -/
def ofItems : (schema : List Member) → List Json → Except Fault (Record schema)
  | [], [] => .ok ()
  | [], _ :: _ => .error .malformed
  | member :: members, [] =>
    match member.default? with
    | none => .error .malformed
    | some value => do
      let values ← ofItems members []
      pure (value, values)
  | member :: members, item :: items => do
    let value ← member.codec.read item
    let values ← ofItems members items
    pure (value, values)

/-- The members that are written. -/
def toMembers : (schema : List Member) → Record schema → List (Bytes × Json)
  | [], () => []
  | member :: members, (value, values) =>
    if member.isHidden value then toMembers members values
    else (Text.utf8 member.name, member.codec.write value) :: toMembers members values

end Record

/-- The codec of the records of a schema. -/
def Codec.record (schema : List Member) : Codec (Record schema) where
  read
    | .object _ members => do
      let slots ← members.foldlM (Slots.readMember schema) (Slots.empty schema)
      Slots.finish schema slots
    | .array _ items => Record.ofItems schema items
    | _ => .error .malformed
  write values := ofMembers (Record.toMembers schema values)
  shape := .record (schema.map fun member => (member.name, member.codec.shape))

end RollupWallet.Json
