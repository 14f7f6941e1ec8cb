import RollupWallet.Text.Decimal
import RollupWallet.Text.Domain.Name
import RollupWallet.Text.Hex
import RollupWallet.Text.Pieces

/-!
# Hosts

The part of an address that says which computer offers a service: a name, four numbers with points
between them or, in brackets, eight groups of hexadecimal digits. The web holds its names to the
rules of domain names and takes a name that ends in a number for four numbers; elsewhere any text
is a name that is free of the marks of an address.
-/

namespace RollupWallet.Text.Url

/-- The number that a piece of a host writes: in hexadecimal after `0x`, in octal after `0`, else
in decimal. A mark without digits writes zero. -/
def number? (piece : Bytes) : Option Nat :=
  let digits (base : Nat) (text : Bytes) : Option Nat :=
    text.foldlM
      (fun n byte => do
        let digit ← Hex.value? byte
        if digit < base then some (n * base + digit) else none)
      0
  match piece with
  | [] => none
  | 48 :: 120 :: rest => digits 16 rest
  | 48 :: 88 :: rest => digits 16 rest
  | 48 :: rest => digits 8 rest
  | text => digits 10 text

/-- Whether pieces write four bytes; the last may stand for several. -/
def isQuad (pieces : List Bytes) : Bool :=
  match pieces.mapM number? with
  | none => false
  | some numbers =>
    numbers.length ≤ 4 && numbers.dropLast.all (· < 256) &&
      numbers.getLastD 0 < Nat.pow 256 (5 - numbers.length)

/-- Whether a piece makes its host a number. -/
def isNumeric (piece : Bytes) : Bool :=
  (piece ≠ [] && piece.all Decimal.isDigit) ||
    match piece with
    | 48 :: 120 :: rest => rest.all fun byte => (Hex.value? byte).isSome
    | 48 :: 88 :: rest => rest.all fun byte => (Hex.value? byte).isSome
    | _ => false

/-- Whether a group in brackets has one to four hexadecimal digits. -/
def isGroup (group : Bytes) : Bool :=
  group ≠ [] && group.length ≤ 4 && group.all fun byte => (Hex.value? byte).isSome

/-- Whether a piece is a decimal number below 256 without leading zeros. -/
def isOctet (piece : Bytes) : Bool :=
  match Decimal.natural? piece with
  | some n => n < 256 && (piece.length = 1 || piece.head? ≠ some 48)
  | none => false

/-- The number of groups that a part of a host in brackets writes, if they are sound. Four numbers
in place of the last two groups are sound at the very end only. -/
def groupCount? (atEnd : Bool) (text : Bytes) : Option Nat :=
  if text = [] then some 0
  else
    let groups := pieces 58 text
    let last := groups.getLastD []
    if groups.all isGroup then some groups.length
    else if atEnd && groups.dropLast.all isGroup && (pieces 46 last).length = 4 &&
        (pieces 46 last).all isOctet then some (groups.length + 1)
    else none

/-- The first place where two colons stand, as the text before and after them. -/
def atDoubleColon? : Bytes → Option (Bytes × Bytes)
  | 58 :: 58 :: rest => some ([], rest)
  | byte :: rest => (atDoubleColon? rest).map fun found => (byte :: found.1, found.2)
  | [] => none

/-- Whether a text is a host in brackets: eight groups, of which a run may be left out. -/
def isGroups (text : Bytes) : Bool :=
  match atDoubleColon? text with
  | none => groupCount? true text = some 8
  | some (front, back) =>
    match groupCount? false front, groupCount? true back with
    | some n, some m => n + m ≤ 7
    | _, _ => false

/-- A text with its percent signs undone. -/
def percentDecode : Bytes → Bytes
  | 37 :: a :: b :: rest =>
    match Hex.value? a, Hex.value? b with
    | some high, some low => UInt8.ofNat (16 * high + low) :: percentDecode rest
    | _, _ => 37 :: percentDecode (a :: b :: rest)
  | byte :: rest => byte :: percentDecode rest
  | [] => []

/-- Whether a text in brackets, of which the first has been read, is a host. -/
def isBracketed (text : Bytes) : Bool := text.getLast? = some 93 && isGroups text.dropLast

/-- The labels of a name as bytes, after the percent signs in it are undone. -/
def labels? (name : Bytes) : Option (List Bytes) := do
  let name ← ofUtf8? (percentDecode name)
  let labels ← Domain.labels? name.toList
  some (labels.map fun label => utf8 (String.ofList label))

/-- Whether a text is a host of the web. An empty label at the end of a name does not count. -/
def isWebHost : Bytes → Bool
  | 91 :: rest => isBracketed rest
  | name =>
    match labels? name with
    | none => false
    | some labels =>
      let counted := if labels.getLastD [] = [] then labels.dropLast else labels
      counted ≠ [] && (!isNumeric (counted.getLastD []) || isQuad counted)

/-- Whether a byte has a meaning in the address around a host. -/
def isReserved (byte : UInt8) : Bool :=
  ([0, 9, 10, 13, 32, 35, 47, 58, 60, 62, 63, 64, 91, 92, 93, 94, 124] : Bytes).contains byte

/-- Whether a text is a host outside the web. It may be empty. -/
def isOtherHost : Bytes → Bool
  | 91 :: rest => isBracketed rest
  | name => !name.any isReserved

end RollupWallet.Text.Url
