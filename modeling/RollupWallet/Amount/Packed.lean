import RollupWallet.Error.InvalidInput

/-!
# Packed amounts

An amount is hashed in the form in which the rollup stores it: a mantissa of 35 bits times a power
of ten with an exponent of 5 bits. Packing drops decimal digits from the end until the mantissa
fits, so it rounds towards zero and keeps what fits already.
-/

namespace RollupWallet

/-- An amount as a mantissa and a power of ten. -/
structure PackedAmount where
  mantissa : Nat
  exponent : Nat
deriving DecidableEq, Repr

namespace PackedAmount

/-- The largest mantissa. -/
def maxMantissa : Nat := Nat.pow 2 35 - 1

/-- The largest exponent. -/
def maxExponent : Nat := Nat.pow 2 5 - 1

/-- The largest amount that can be packed. -/
def maxAmount : Nat := maxMantissa * Nat.pow 10 maxExponent

/-- Drops digits from the end until the mantissa fits. -/
def shorten (mantissa exponent : Nat) : PackedAmount :=
  if maxMantissa < mantissa then shorten (mantissa / 10) (exponent + 1) else ⟨mantissa, exponent⟩
termination_by mantissa
decreasing_by
  simp only [maxMantissa] at *
  omega

/-- The packed form of an amount, if there is one. -/
def ofNat? (amount : Nat) : Option PackedAmount :=
  if maxAmount < amount then none else some (shorten amount 0)

/-- The packed form of the amount in a field. -/
def pack (field : String) (amount : Nat) : Except InvalidInput PackedAmount :=
  match ofNat? amount with
  | some packed => .ok packed
  | none => .error ⟨field, .notPackable amount⟩

/-- The amount that a packed form stands for. -/
def toNat (packed : PackedAmount) : Nat := packed.mantissa * Nat.pow 10 packed.exponent

/-- The mantissa above the exponent, in 40 bits. -/
def toBits (packed : PackedAmount) : Nat := packed.mantissa * Nat.pow 2 5 + packed.exponent

/-- The packed form that 40 bits write. -/
def ofBits (bits : Nat) : Except InvalidInput PackedAmount :=
  if maxMantissa < bits / Nat.pow 2 5 then .error ⟨"PackedAmount", .tooWideToUnpack⟩
  else .ok ⟨bits / Nat.pow 2 5, bits % Nat.pow 2 5⟩

end PackedAmount

/-- An amount rounded to what its packed form stands for. -/
def packAmount (amount : Nat) : Except InvalidInput Nat :=
  PackedAmount.toNat <$> PackedAmount.pack "Amount" amount

/-- The largest number whose square is at most `n`, found by halving the interval `[low, high)`. -/
def sqrtBetween (n : Nat) (low high : Nat) : Nat :=
  if low + 1 < high then
    let middle := (low + high) / 2
    if middle * middle ≤ n then sqrtBetween n middle high else sqrtBetween n low middle
  else low
termination_by high - low

/-- The square root of a number, rounded down. -/
def floorSqrt (n : Nat) : Nat := sqrtBetween n 0 (Nat.pow 2 (n.log2 / 2 + 1))

/-- The liquidity that a first deposit of two amounts mints. -/
def liquidityAmount (a b : Nat) : Except InvalidInput Nat := packAmount (floorSqrt (a * b))

end RollupWallet
