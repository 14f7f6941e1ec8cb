/-!
# Powers by squaring

One loop serves powers in a field and multiples of a curve point: it reads the bits of the
exponent from the top, squares at each bit, and multiplies once more where the bit is set.
-/

namespace RollupWallet.Arith

/-- The bits of a number, most significant first. -/
def bits (n : Nat) : List Bool := ((List.range (n.log2 + 1)).map n.testBit).reverse

/-- The `n`-th power of `x` under a multiplication with unit `one`. -/
def power {α : Type} (mul : α → α → α) (one x : α) (n : Nat) : α :=
  (bits n).foldl
    (fun acc bit =>
      let square := mul acc acc
      if bit then mul square x else square)
    one

end RollupWallet.Arith
