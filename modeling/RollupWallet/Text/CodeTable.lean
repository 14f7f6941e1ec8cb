/-!
# Tables of code points

What is known of characters is kept in tables. A table is a text of rows with blanks between them,
and a row is a list of hexadecimal numbers with full stops between them. A table that is a set has
rows of one number for a single code point and of two for a range.
-/

namespace RollupWallet.Text

namespace CodeTable

/-- The value of a hexadecimal digit in upper case. -/
def digit? (c : Char) : Option Nat :=
  if '0' ≤ c ∧ c ≤ '9' then some (c.toNat - 48)
  else if 'A' ≤ c ∧ c ≤ 'F' then some (c.toNat - 55)
  else none

/-- Reads rows, given the numbers of the row that has begun, the last one first. -/
def rowsFrom : (row : List Nat) → List Char → List (List Nat)
  | [], [] => []
  | row, [] => [row.reverse]
  | row, c :: rest =>
    match digit? c, row with
    | some d, [] => rowsFrom [d] rest
    | some d, n :: ns => rowsFrom ((16 * n + d) :: ns) rest
    | none, [] => rowsFrom [] rest
    | none, row => if c = '.' then rowsFrom (0 :: row) rest else row.reverse :: rowsFrom [] rest

/-- The rows of a table. -/
def rows (text : String) : List (List Nat) := rowsFrom [] text.toList

/-- The rows of a table of three numbers. -/
def triples (text : String) : List (Nat × Nat × Nat) :=
  (rows text).filterMap fun row =>
    match row with
    | [a, b, c] => some (a, b, c)
    | _ => none

end CodeTable

/-- A set of characters, as ranges of code points. -/
structure CodeSet where
  ranges : List (Nat × Nat)
deriving DecidableEq

namespace CodeSet

/-- The set that a table lists. -/
def ofText (text : String) : CodeSet :=
  ⟨(CodeTable.rows text).filterMap fun row =>
    match row with
    | [code] => some (code, code)
    | [first, last] => some (first, last)
    | _ => none⟩

/-- Whether a character is in a set. -/
def contains (set : CodeSet) (c : Char) : Bool :=
  set.ranges.any fun range => range.1 ≤ c.toNat && c.toNat ≤ range.2

end CodeSet

end RollupWallet.Text
