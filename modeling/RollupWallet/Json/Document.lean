import RollupWallet.Json.Codec

/-!
# Documents

A document is a JSON text that is taken as it is. It is held to everything that a reader could ask
for: strings that can be decoded, numbers that fit in a double, and no more than 127 arrays and
objects inside each other.
-/

namespace RollupWallet.Json

/-- Whether a number is nearer to some double than to infinity. -/
def fitsDouble (text : Bytes) : Bool :=
  let text :=
    match text with
    | 45 :: rest => rest
    | text => text
  let whole := text.takeWhile Text.Decimal.isDigit
  let rest := text.dropWhile Text.Decimal.isDigit
  let (fraction, rest) := (fraction? rest).getD ([], rest)
  let exponent := (Text.Decimal.integer? (rest.drop 1)).getD 0
  let mantissa := Text.Decimal.value (whole ++ fraction.drop 1)
  let power : Int := exponent - (fraction.length - 1 : Nat)
  let bound := Nat.pow 2 1024 - Nat.pow 2 970
  if mantissa = 0 then true
  else if power < 0 then
    text.length ≤ power.natAbs || mantissa / Nat.pow 10 power.natAbs < bound
  else power ≤ 310 && mantissa * Nat.pow 10 power.natAbs < bound

mutual

/-- Whether a tree is a document with at most `depth` arrays and objects inside each other. -/
def isDocument (depth : Nat) : Json → Bool
  | null => true
  | bool _ => true
  | number text => fitsDouble text
  | string raw => (Literal.string? raw).isSome
  | array _ items =>
    match depth with
    | 0 => false
    | depth + 1 => allDocuments depth items
  | object _ members =>
    match depth with
    | 0 => false
    | depth + 1 => membersDocuments depth members
  | gap => false
  | fault => false
termination_by structural tree => tree

/-- Whether every item is a document. -/
def allDocuments (depth : Nat) : List Json → Bool
  | [] => true
  | item :: items => item.isDocument depth && allDocuments depth items
termination_by structural items => items

/-- Whether every member has a key that can be decoded and a document for its value. -/
def membersDocuments (depth : Nat) : List (Bytes × Json) → Bool
  | [] => true
  | (key, value) :: members =>
    (Literal.string? key).isSome && value.isDocument depth && membersDocuments depth members
termination_by structural members => members

end

/-- A document. -/
def Codec.document : Codec Json where
  read tree := if tree.isDocument 127 then .ok tree else .error .malformed
  write tree := tree

end RollupWallet.Json
