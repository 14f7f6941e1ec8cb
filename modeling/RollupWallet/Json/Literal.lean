import RollupWallet.Text.Hex

/-!
# JSON strings

Between its quotation marks a string writes the bytes of its UTF-8 form, some of them as escapes.
Writing escapes the quotation mark, the backslash and the control characters, and nothing else.
Reading undoes all escapes of the format; two that together write one character beyond the first
plane belong together, and half of such a pair is refused.
-/

namespace RollupWallet.Json.Literal

/-- The letter that follows the backslash in the short escape of a byte. -/
def shortEscape? (byte : UInt8) : Option UInt8 :=
  if byte = 34 then some 34
  else if byte = 92 then some 92
  else if byte = 8 then some 98
  else if byte = 9 then some 116
  else if byte = 10 then some 110
  else if byte = 12 then some 102
  else if byte = 13 then some 114
  else none

/-- The byte that a short escape with a given letter writes. -/
def ofShortEscape? (letter : UInt8) : Option UInt8 :=
  if letter = 34 then some 34
  else if letter = 92 then some 92
  else if letter = 47 then some 47
  else if letter = 98 then some 8
  else if letter = 102 then some 12
  else if letter = 110 then some 10
  else if letter = 114 then some 13
  else if letter = 116 then some 9
  else none

/-- A byte inside a string. -/
def escape (byte : UInt8) : Bytes :=
  match shortEscape? byte with
  | some letter => [92, letter]
  | none =>
    if byte < 32 then
      [92, 117, 48, 48, Text.Hex.digit (byte.toNat / 16), Text.Hex.digit (byte.toNat % 16)]
    else [byte]

/-- The raw form of bytes inside a string. -/
def encode (bytes : Bytes) : Bytes := bytes.flatMap escape

/-- The number that four hexadecimal digits write. -/
def unit? (a b c d : UInt8) : Option Nat := do
  let a ← Text.Hex.value? a
  let b ← Text.Hex.value? b
  let c ← Text.Hex.value? c
  let d ← Text.Hex.value? d
  some (((a * 16 + b) * 16 + c) * 16 + d)

/-- The UTF-8 bytes of a character, given its code. -/
def codeBytes (code : Nat) : Bytes := Text.utf8 (String.singleton (Char.ofNat code))

/-- Whether a unit opens a pair. -/
def isHigh (unit : Nat) : Bool := 0xD800 ≤ unit && unit < 0xDC00

/-- Whether a unit closes a pair. -/
def isLow (unit : Nat) : Bool := 0xDC00 ≤ unit && unit < 0xE000

/-- The bytes that the raw form of a string writes, if no half of a pair stands alone. -/
def decode? : Bytes → Option Bytes
  | [] => some []
  | 92 :: 117 :: a :: b :: c :: d :: rest =>
    match unit? a b c d with
    | none => none
    | some unit =>
      if isHigh unit then
        match rest with
        | 92 :: 117 :: a :: b :: c :: d :: rest =>
          match unit? a b c d with
          | none => none
          | some low =>
            if isLow low then
              (codeBytes (0x10000 + (unit - 0xD800) * 0x400 + (low - 0xDC00)) ++ ·) <$> decode? rest
            else none
        | _ => none
      else if isLow unit then none
      else (codeBytes unit ++ ·) <$> decode? rest
  | 92 :: letter :: rest =>
    match ofShortEscape? letter with
    | some byte => (byte :: ·) <$> decode? rest
    | none => none
  | byte :: rest => (byte :: ·) <$> decode? rest

/-- The string that a raw form writes. -/
def string? (raw : Bytes) : Option String := (decode? raw).bind Text.ofUtf8?

/-- Splits the text after an opening quotation mark into the raw form of the string and the rest
after the closing mark. Control characters and unknown escapes are refused; what the four digits of
an escape write is not looked at. -/
def split? : Bytes → Option (Bytes × Bytes)
  | [] => none
  | 34 :: rest => some ([], rest)
  | 92 :: 117 :: a :: b :: c :: d :: rest =>
    match unit? a b c d with
    | none => none
    | some _ =>
      (split? rest).map fun found => (92 :: 117 :: a :: b :: c :: d :: found.1, found.2)
  | 92 :: letter :: rest =>
    match ofShortEscape? letter with
    | none => none
    | some _ => (split? rest).map fun found => (92 :: letter :: found.1, found.2)
  | byte :: rest =>
    if byte < 32 ∨ byte = 92 then none
    else (split? rest).map fun found => (byte :: found.1, found.2)

end RollupWallet.Json.Literal
