import RollupWallet.Json.Literal
import RollupWallet.Json.Number

/-!
# Refused items

Where a byte is looked for and something else is found, only part of it has been read. A text that
is wrong is read up to and with the place where it goes wrong; what is sound is read to its end; and
an array or an object is not read at all.
-/

namespace RollupWallet.Json

namespace Refused

/-- What is left of a text that should start with given letters. -/
def afterLetters : (letters : Bytes) → Bytes → Bytes
  | letter :: letters, byte :: rest => if byte = letter then afterLetters letters rest else rest
  | _, rest => rest

/-- What is left of a text after the opening quotation mark of a string. -/
def afterString : Bytes → Bytes
  | [] => []
  | 34 :: rest => rest
  | 92 :: 117 :: a :: b :: c :: d :: rest =>
    match Literal.unit? a b c d with
    | none => rest
    | some unit =>
      if Literal.isHigh unit then
        match rest with
        | 92 :: 117 :: a :: b :: c :: d :: rest =>
          if (Literal.unit? a b c d).any Literal.isLow then afterString rest else rest
        | 92 :: 117 :: _ => []
        | 92 :: _ :: rest => rest
        | _ :: rest => rest
        | [] => []
      else if Literal.isLow unit then rest
      else afterString rest
  | 92 :: 117 :: _ => []
  | 92 :: letter :: rest =>
    if (Literal.ofShortEscape? letter).isSome then afterString rest else rest
  | byte :: rest => if byte < 32 ∨ byte = 92 then rest else afterString rest

/-- The greatest exponent. -/
def maxExponent : Nat := 2147483647

/-- What is left of a text after some digits of an exponent, given their value. A number that grows
too large is read no further. -/
def afterPower (grows : Bool) : (exponent : Nat) → Bytes → Bytes
  | _, [] => []
  | exponent, byte :: rest =>
    let next := exponent * 10 + (byte.toNat - 48)
    if !Text.Decimal.isDigit byte then byte :: rest
    else if grows && maxExponent < next then rest
    else afterPower grows next rest

/-- What is left of a text after the fraction of a number. Zero has any exponent. -/
def afterFraction (isZero : Bool) : Bytes → Bytes
  | [] => []
  | mark :: rest =>
    if mark = 101 ∨ mark = 69 then
      let digits :=
        match rest with
        | 43 :: rest => rest
        | 45 :: rest => rest
        | rest => rest
      match digits with
      | [] => []
      | first :: others =>
        if Text.Decimal.isDigit first then
          afterPower (!isZero && rest.head? ≠ some 45) (first.toNat - 48) others
        else others
    else mark :: rest

/-- What is left of a text after the digits before the point. -/
def afterWhole (isZero : Bool) : Bytes → Bytes
  | 46 :: rest =>
    match digits? rest with
    | none => rest
    | some (digits, rest) => afterFraction (isZero && digits.all (· = 48)) rest
  | text => afterFraction isZero text

/-- What is left of a text after the sign of a number. -/
def afterSign : Bytes → Bytes
  | [] => []
  | 48 :: rest => if rest.head?.any Text.Decimal.isDigit then rest else afterWhole true rest
  | byte :: rest =>
    if Text.Decimal.isDigit byte then afterWhole false (rest.dropWhile Text.Decimal.isDigit)
    else rest

end Refused

/-- Whether a text starts with a byte. -/
def startsWithByte (text : Bytes) : Bool :=
  match number? text with
  | some (token, _) => (Text.Decimal.natural? token).any (· < 256)
  | none => false

/-- What is left of a text that should start with a byte and does not. -/
def afterRefused? (text : Bytes) : Option Bytes :=
  if startsWithByte text then none
  else
    match text with
    | 110 :: rest => some (Refused.afterLetters [117, 108, 108] rest)
    | 116 :: rest => some (Refused.afterLetters [114, 117, 101] rest)
    | 102 :: rest => some (Refused.afterLetters [97, 108, 115, 101] rest)
    | 34 :: rest => some (Refused.afterString rest)
    | 45 :: rest => some (Refused.afterSign rest)
    | byte :: rest =>
      some (if Text.Decimal.isDigit byte then Refused.afterSign text else byte :: rest)
    | [] => some []

end RollupWallet.Json
