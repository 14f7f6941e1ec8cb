import RollupWallet.Bytes.Basic

/-!
# Punycode

A text of any characters is written with letters, digits and hyphens. Its ASCII characters come
first, with a hyphen behind them. Then each other character is written as one number, in ascending
order of their codes. The number counts the steps from the character before: a step goes to the
next place of the text, and from the last place to the first one and the next code.

The digits of a number come with the lowest first. Each place has a threshold, and a digit below it
is the last one. The thresholds follow a bias, which is adapted to the numbers seen so far.
-/

namespace RollupWallet.Text.Punycode

/-- The value of a digit: the letters come before the figures. -/
def digit? (c : Char) : Option Nat :=
  if 'a' ≤ c.toLower ∧ c.toLower ≤ 'z' then some (c.toLower.toNat - 97)
  else if '0' ≤ c ∧ c ≤ '9' then some (c.toNat - 22)
  else none

/-- The threshold of a place of a number, given the bias. The places count from zero. -/
def threshold (bias place : Nat) : Nat := min 26 (max 1 (36 * (place + 1) - bias))

/-- The bias for thresholds that are kept low by a number of this size. -/
def biasFor (size : Nat) : Nat :=
  if 455 < size then 36 + biasFor (size / 35) else 36 * size / (size + 38)
termination_by size
decreasing_by exact Nat.div_lt_self (by omega) (by omega)

/-- The bias after a number that has brought a text to a length. -/
def adapted (isFirst : Bool) (number length : Nat) : Nat :=
  let size := if isFirst then number / 700 else number / 2
  biasFor (size + size / length)

/-- How far a text has been read. -/
structure Reading where
  /-- The characters that have been written. -/
  text : List Char
  /-- The code of the last character that is not ASCII. -/
  code : Nat := 128
  /-- The place after that character. -/
  position : Nat := 0
  bias : Nat := 72
  /-- The sum of the digits that have been read of a number, each times its weight. -/
  number : Nat := 0
  /-- How many they are. -/
  digits : Nat := 0
  /-- The weight of the next digit. -/
  weight : Nat := 1

namespace Reading

/-- Writes the character that a number stands for. -/
def write? (reading : Reading) (number : Nat) : Option Reading :=
  let steps := reading.position + number
  let length := reading.text.length + 1
  let code := reading.code + steps / length
  let position := steps % length
  if h : code.isValidChar then
    some
      { text := reading.text.take position ++ Char.ofNatAux code h :: reading.text.drop position
        code
        position := position + 1
        bias := adapted (reading.position = 0) number length }
  else none

/-- The bound of all numbers. -/
def bound : Nat := 4294967296

/-- Reads one digit. -/
def read? (reading : Reading) (c : Char) : Option Reading := do
  let digit ← digit? c
  let number := reading.number + digit * reading.weight
  let threshold := threshold reading.bias reading.digits
  if bound ≤ reading.position + number then none
  else if digit < threshold then reading.write? number
  else
    let weight := reading.weight * (36 - threshold)
    if bound ≤ weight then none
    else some { reading with number, digits := reading.digits + 1, weight }

end Reading

/-- The characters before the last hyphen and the numbers after it. A hyphen at the front belongs
to the numbers. -/
def split (text : List Char) : List Char × List Char :=
  let back := text.reverse.takeWhile (· ≠ '-')
  let front := text.take (text.length - (back.length + 1))
  if front = [] then ([], text) else (front, back.reverse)

/-- The text that is written in Punycode. -/
def decode? (text : List Char) : Option (List Char) := do
  let (front, numbers) := split text
  let reading ← numbers.foldlM Reading.read? { text := front }
  if reading.digits = 0 then some reading.text else none

end RollupWallet.Text.Punycode
