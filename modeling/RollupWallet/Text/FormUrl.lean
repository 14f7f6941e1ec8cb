import RollupWallet.Text.Hex

/-!
# Form encoding

Queries and form bodies are lists of named values. A space is written as `+`, letters, digits and
`* - . _` stand for themselves, and every other byte is a percent sign and two upper-case digits.
-/

namespace RollupWallet.Text.FormUrl

/-- Whether a byte stands for itself. -/
def isPlain (byte : UInt8) : Bool :=
  (48 ≤ byte && byte ≤ 57) || (65 ≤ byte && byte ≤ 90) || (97 ≤ byte && byte ≤ 122) ||
    byte == 42 || byte == 45 || byte == 46 || byte == 95

/-- The upper-case digit of a number below sixteen. -/
def upperDigit (n : Nat) : UInt8 := if n < 10 then UInt8.ofNat (48 + n) else UInt8.ofNat (55 + n)

/-- A byte inside a name or a value. -/
def escape (byte : UInt8) : Bytes :=
  if byte = 32 then [43]
  else if isPlain byte then [byte]
  else [37, upperDigit (byte.toNat / 16), upperDigit (byte.toNat % 16)]

/-- A name or a value. -/
def component (s : String) : Bytes := (utf8 s).flatMap escape

/-- Named values in their order, joined by `&`. -/
def encode (pairs : List (String × String)) : Bytes :=
  [38].intercalate (pairs.map fun pair => component pair.1 ++ [61] ++ component pair.2)

/-- The encoded text of named values as a string. -/
def text (pairs : List (String × String)) : String := ofAscii (encode pairs)

end RollupWallet.Text.FormUrl
