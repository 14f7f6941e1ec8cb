import RollupWallet.Text.Utf8

/-!
# Decimal text

Numbers are written without leading zeros. There are three ways to read one: digits alone, digits
with a sign, and the lenient form in which a plus sign may lead and underscores may follow the
first digit.
-/

namespace RollupWallet.Text.Decimal

/-- Whether a byte is an ASCII digit. -/
def isDigit (byte : UInt8) : Bool := 48 ≤ byte && byte ≤ 57

/-- The number that digits write. -/
def value (digits : Bytes) : Nat :=
  digits.foldl (fun n digit => n * 10 + (digit.toNat - 48)) 0

/-- The digits of a number. -/
def natural (n : Nat) : Bytes := utf8 (toString n)

/-- The digits of an integer, after a minus sign if it is negative. -/
def integer (n : Int) : Bytes := utf8 (toString n)

/-- A number written with one digit or more and nothing else. -/
def natural? (text : Bytes) : Option Nat :=
  if text ≠ [] ∧ text.all isDigit then some (value text) else none

/-- A number after a plus or minus sign, if there is one. -/
def integer? (text : Bytes) : Option Int :=
  match text with
  | 43 :: digits => (natural? digits).map Int.ofNat
  | 45 :: digits => (natural? digits).map fun n => -Int.ofNat n
  | digits => (natural? digits).map Int.ofNat

/-- A number after a plus sign, if there is one. -/
def unsigned? (text : Bytes) : Option Nat :=
  match text with
  | 43 :: digits => natural? digits
  | digits => natural? digits

/-- A text without a plus sign in front, unless another one follows it. -/
def stripPlus : Bytes → Bytes
  | 43 :: 43 :: rest => 43 :: 43 :: rest
  | 43 :: rest => rest
  | text => text

/-- The lenient form: a plus sign may lead, and underscores may stand after the first digit. -/
def lenient? (text : Bytes) : Option Nat :=
  match stripPlus text with
  | [] => none
  | 95 :: _ => none
  | digits => natural? (digits.filter (· ≠ 95))

end RollupWallet.Text.Decimal
