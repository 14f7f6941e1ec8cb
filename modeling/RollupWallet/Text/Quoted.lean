import RollupWallet.Text.Printable

/-!
# Quoted text in messages

A message quotes the text it complains about so that it can be read off the screen: a character
that does not show by itself is written as an escape, and so is the quotation mark that encloses
the text. A single character is enclosed in apostrophes.
-/

namespace RollupWallet.Text.Quoted

/-- A character inside quotation marks `mark`. -/
def escape (mark c : Char) : List Char :=
  if c = '\t' then ['\\', 't']
  else if c = '\n' then ['\\', 'n']
  else if c = '\r' then ['\\', 'r']
  else if c = '\x00' then ['\\', '0']
  else if c = '\\' ∨ c = mark then ['\\', c]
  else if isPrintable c then [c]
  else ['\\', 'u', '\x7b'] ++ Nat.toDigits 16 c.toNat ++ ['\x7d']

/-- A text in quotation marks. -/
def string (s : String) : String :=
  String.ofList (['"'] ++ s.toList.flatMap (escape '"') ++ ['"'])

/-- A character in apostrophes. -/
def char (c : Char) : String := String.ofList (['\''] ++ escape '\'' c ++ ['\''])

end RollupWallet.Text.Quoted
