/-!
# Expected shapes

A text is read in the same way whatever it is read for, but for one case: an array that is read as a
word of a fixed length has its own rule for what follows the last byte. A shape says where in a text
such words are expected.
-/

namespace RollupWallet.Json

/-- What is expected of a text, as far as it matters for reading it. -/
inductive Shape where
  | any
  /-- Bytes, of which so many are still to come. -/
  | word (remaining : Nat)
  | list (item : Shape)
  /-- Members, by name in an object and by their order in an array. -/
  | record (members : List (String × Shape))

namespace Shape

/-- The shape of the first item of an array. -/
def item : Shape → Shape
  | list item => item
  | record ((_, shape) :: _) => shape
  | _ => any

/-- The shape of an array without its first item. -/
def afterItem : Shape → Shape
  | word (remaining + 1) => word remaining
  | list item => list item
  | record (_ :: members) => record members
  | _ => any

/-- Whether all bytes of a word have been read. -/
def isFull : Shape → Bool
  | word 0 => true
  | _ => false

/-- The shape of the member with a name, if the name can be read. -/
def member (name : Option String) : Shape → Shape
  | record members =>
    match members.find? fun m => some m.1 = name with
    | some (_, shape) => shape
    | none => any
  | _ => any

end Shape

end RollupWallet.Json
