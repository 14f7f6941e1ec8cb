import RollupWallet.Bytes.Basic

/-!
# JSON trees

A tree keeps what a reader may still need of the text: numbers as they are written, strings with
their escapes, arrays and objects with their own text beside their parts. Members stay in the order
of the text and may repeat.

A text is read from the front, and what is wrong with its content is reported before what is wrong
with its form further on. A tree therefore shows where its text breaks: the last item or member
read is a `fault`, and no reader takes it for a value.
-/

namespace RollupWallet

/-- A JSON text as a tree. -/
inductive Json where
  | null
  | bool (value : Bool)
  /-- A number, as it is written. -/
  | number (text : Bytes)
  /-- A string, by what stands between its quotation marks. -/
  | string (raw : Bytes)
  /-- An array, with its text. -/
  | array (text : Bytes) (items : List Json)
  /-- An object, with its text. Keys are raw like strings. -/
  | object (text : Bytes) (members : List (Bytes × Json))
  /-- What follows the last comma of an array without being an item. -/
  | gap
  /-- The place where a text is no JSON any more. -/
  | fault
deriving Inhabited

namespace Json

/-- The text of a tree. -/
def text : Json → Bytes
  | null => [110, 117, 108, 108]
  | bool true => [116, 114, 117, 101]
  | bool false => [102, 97, 108, 115, 101]
  | number text => text
  | string raw => [34] ++ raw ++ [34]
  | array text _ => text
  | object text _ => text
  | gap => []
  | fault => []

/-- The text of an array of items. -/
def itemsText (items : List Json) : Bytes := [91] ++ [44].intercalate (items.map text) ++ [93]

/-- The text of an object of members. -/
def membersText (members : List (Bytes × Json)) : Bytes :=
  [123] ++ [44].intercalate (members.map fun m => [34] ++ m.1 ++ [34, 58] ++ m.2.text) ++ [125]

/-- An array in its shortest text. -/
def ofItems (items : List Json) : Json := array (itemsText items) items

/-- An object in its shortest text. -/
def ofMembers (members : List (Bytes × Json)) : Json := object (membersText members) members

mutual

/-- Whether the text of a tree is JSON throughout. -/
def isSound : Json → Bool
  | array _ items => allSound items
  | object _ members => membersSound members
  | gap => false
  | fault => false
  | _ => true
termination_by structural tree => tree

/-- Whether every item is sound. -/
def allSound : List Json → Bool
  | [] => true
  | item :: items => item.isSound && allSound items
termination_by structural items => items

/-- Whether every value of a member is sound. -/
def membersSound : List (Bytes × Json) → Bool
  | [] => true
  | (_, value) :: members => value.isSound && membersSound members
termination_by structural members => members

end

end Json

end RollupWallet
