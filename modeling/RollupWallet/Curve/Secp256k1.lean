import RollupWallet.Bytes.Basic
import RollupWallet.Arith.Modular

/-!
# The curve of layer-1 keys

Layer-1 accounts sign on the curve `y² = x³ + 7` (secp256k1). Its points form a group of prime
order, written here in affine coordinates with a neutral element beside them.
-/

namespace RollupWallet.Curve.Secp256k1

/-- The modulus of the coordinates. -/
def prime : Nat := 0xfffffffffffffffffffffffffffffffffffffffffffffffffffffffefffffc2f

/-- The number of points. -/
def order : Nat := 0xfffffffffffffffffffffffffffffffebaaedce6af48a03bbfd25e8cd0364141

instance : @NeZero Nat Zero.ofOfNat0 prime := ⟨by decide⟩

instance : @NeZero Nat Zero.ofOfNat0 order := ⟨by decide⟩

/-- A coordinate. -/
abbrev Coordinate := Fin prime

/-- A multiplier of a point. -/
abbrev Scalar := Fin order

/-- A point: the neutral element, or a pair of coordinates. -/
inductive Point where
  | zero
  | affine (x y : Coordinate)
deriving DecidableEq

namespace Point

/-- The generator. -/
def generator : Point :=
  .affine 0x79be667ef9dcbbac55a06295ce870b07029bfcdb2dce28d959f2815b16f81798
    0x483ada7726a3c4655da4fbfc0e1108a8fd17b448a68554199c47d08ffb10d4b8

/-- The third point on the line of the given slope through two points, mirrored. -/
def onLine (slope x1 y1 x2 : Coordinate) : Point :=
  let x := slope * slope - x1 - x2
  .affine x (slope * (x1 - x) - y1)

/-- The sum of two points. -/
def add : Point → Point → Point
  | zero, q => q
  | p, zero => p
  | affine x1 y1, affine x2 y2 =>
    if x1 ≠ x2 then onLine ((y2 - y1) * Arith.inv (x2 - x1)) x1 y1 x2
    else if y1 = y2 then onLine (3 * x1 * x1 * Arith.inv (2 * y1)) x1 y1 x2
    else zero

/-- The `n`-fold sum of a point with itself. -/
def mul (n : Nat) (p : Point) : Point := Arith.power add zero p n

/-- The point with a given first coordinate whose second coordinate is odd or even as asked. -/
def ofX? (x : Nat) (odd : Bool) : Option Point :=
  if h : x < prime then
    let x : Coordinate := ⟨x, h⟩
    let square := x * x * x + 7
    let y := Arith.pow square ((prime + 1) / 4)
    if y * y = square then some (affine x (if (y.val % 2 = 1) = odd then y else -y)) else none
  else none

end Point

end RollupWallet.Curve.Secp256k1
