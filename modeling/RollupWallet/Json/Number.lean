import RollupWallet.Text.Decimal

/-!
# JSON numbers

A number has digits, perhaps a sign before them, and perhaps a fraction and an exponent after them.
Each part is split off the front of a text.
-/

namespace RollupWallet.Json

/-- The digits at the front of a text and the rest, if there is a digit. -/
def digits? (text : Bytes) : Option (Bytes × Bytes) :=
  match text.takeWhile Text.Decimal.isDigit with
  | [] => none
  | digits => some (digits, text.dropWhile Text.Decimal.isDigit)

/-- The fraction at the front of a text, which may be missing, and the rest. -/
def fraction? : Bytes → Option (Bytes × Bytes)
  | 46 :: rest => (digits? rest).map fun found => (46 :: found.1, found.2)
  | text => some ([], text)

/-- The exponent at the front of a text, which may be missing, and the rest. -/
def exponent? : Bytes → Option (Bytes × Bytes)
  | [] => some ([], [])
  | mark :: rest =>
    if mark = 101 ∨ mark = 69 then
      match rest with
      | [] => none
      | sign :: rest' =>
        if sign = 43 ∨ sign = 45 then
          (digits? rest').map fun found => (mark :: sign :: found.1, found.2)
        else (digits? rest).map fun found => (mark :: found.1, found.2)
    else some ([], mark :: rest)

/-- The digits before the point, of which the first is zero only if it is alone. -/
def whole? (text : Bytes) : Option (Bytes × Bytes) :=
  match digits? text with
  | some (48 :: _ :: _, _) => none
  | found => found

/-- The number without sign at the front of a text, and the rest. -/
def magnitude? (text : Bytes) : Option (Bytes × Bytes) := do
  let (whole, rest) ← whole? text
  let (fraction, rest) ← fraction? rest
  let (exponent, rest) ← exponent? rest
  some (whole ++ fraction ++ exponent, rest)

/-- The number at the front of a text, and the rest. -/
def number? : Bytes → Option (Bytes × Bytes)
  | 45 :: rest => (magnitude? rest).map fun found => (45 :: found.1, found.2)
  | text => magnitude? text

end RollupWallet.Json
