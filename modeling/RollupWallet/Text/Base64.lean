import RollupWallet.Bytes.Basic

/-!
# Base64

Three bytes are written as four of sixty-four symbols, and the last group is filled up with `=`.
Reading is strict: the text has full groups, padding only at its end, and no stray bits in the
symbol before the padding, so that every byte string has one spelling.
-/

namespace RollupWallet.Text.Base64

/-- The symbol of a number below sixty-four. -/
def symbol (n : Nat) : UInt8 :=
  if n < 26 then UInt8.ofNat (65 + n)
  else if n < 52 then UInt8.ofNat (71 + n)
  else if n < 62 then UInt8.ofNat (n - 4)
  else if n = 62 then 43 else 47

/-- The number a symbol stands for. -/
def index? (byte : UInt8) : Option Nat :=
  if 65 ≤ byte && byte ≤ 90 then some (byte.toNat - 65)
  else if 97 ≤ byte && byte ≤ 122 then some (byte.toNat - 71)
  else if 48 ≤ byte && byte ≤ 57 then some (byte.toNat + 4)
  else if byte = 43 then some 62
  else if byte = 47 then some 63
  else none

/-- The byte that fills up the last group. -/
def pad : UInt8 := 61

/-- Groups of four symbols for three bytes each. -/
def encode : Bytes → Bytes
  | [] => []
  | [a] => [symbol (a.toNat / 4), symbol (a.toNat % 4 * 16), pad, pad]
  | [a, b] =>
    [symbol (a.toNat / 4), symbol (a.toNat % 4 * 16 + b.toNat / 16),
      symbol (b.toNat % 16 * 4), pad]
  | a :: b :: c :: rest =>
    symbol (a.toNat / 4) :: symbol (a.toNat % 4 * 16 + b.toNat / 16) ::
      symbol (b.toNat % 16 * 4 + c.toNat / 64) :: symbol (c.toNat % 64) :: encode rest

/-- The byte of a last group with two symbols, whose second has four bits to spare. -/
def lastOne? (a b : UInt8) : Option Bytes := do
  let a ← index? a
  let b ← index? b
  if b % 16 = 0 then some [UInt8.ofNat (a * 4 + b / 16)] else none

/-- The bytes of a last group with three symbols, whose third has two bits to spare. -/
def lastTwo? (a b c : UInt8) : Option Bytes := do
  let a ← index? a
  let b ← index? b
  let c ← index? c
  if c % 4 = 0 then
    some [UInt8.ofNat (a * 4 + b / 16), UInt8.ofNat (b % 16 * 16 + c / 4)]
  else none

/-- The bytes of a full group. -/
def group? (a b c d : UInt8) : Option Bytes := do
  let a ← index? a
  let b ← index? b
  let c ← index? c
  let d ← index? d
  some [UInt8.ofNat (a * 4 + b / 16), UInt8.ofNat (b % 16 * 16 + c / 4),
    UInt8.ofNat (c % 4 * 64 + d)]

/-- The bytes that a text writes. -/
def decode? : Bytes → Option Bytes
  | [] => some []
  | a :: b :: c :: d :: rest =>
    if d = pad then
      if rest ≠ [] then none
      else if c = pad then lastOne? a b
      else lastTwo? a b c
    else do
      let first ← group? a b c d
      let others ← decode? rest
      some (first ++ others)
  | _ => none

end RollupWallet.Text.Base64
