import RollupWallet.Field
import RollupWallet.Arith.Modular

/-!
# The Edwards curve of layer-2 keys

Keys and signatures live on the twisted Edwards curve `y² - x² = 1 + d x² y²` over the scalar
field. Its addition law has no exceptional points. Sums and multiples are computed in extended
coordinates, where only the step back to a point divides.

A point is written as 32 bytes: `y`, least significant byte first, with the sign of `x` on the top
bit. Reading recovers `x` from the curve equation and names what stands in the way.
-/

namespace RollupWallet.Curve

/-- The number of points in the subgroup of prime order. -/
def subgroupOrder : Nat :=
  2736030358979909402780800718157159386076813972158567259200215660948447373041

instance : @NeZero Nat Zero.ofOfNat0 subgroupOrder := ⟨by decide⟩

/-- An exponent of a point of the subgroup. -/
abbrev Scalar := Fin subgroupOrder

/-- The number of points of the curve for each point of the subgroup. -/
def cofactor : Nat := 8

/-- The coefficient of `x² y²`. -/
def edwardsD : Felt :=
  12181644023421730124874158521699555681764249180949974110617291017600649128846

/-- How the multiplicative group of the field splits. -/
def fieldTwoPart : Arith.TwoPart fieldModulus where
  twos := 28
  odd := (fieldModulus - 1) / Nat.pow 2 28
  generator := Arith.pow 5 ((fieldModulus - 1) / Nat.pow 2 28)

/-- A pair of coordinates. -/
structure Point where
  x : Felt
  y : Felt
deriving DecidableEq

namespace Point

/-- Whether a pair of coordinates satisfies the equation of the curve. -/
def onCurve (p : Point) : Bool :=
  let x2 := p.x * p.x
  let y2 := p.y * p.y
  y2 - x2 = 1 + edwardsD * (x2 * y2)

/-- The neutral element. -/
def zero : Point := ⟨0, 1⟩

instance : Inhabited Point := ⟨zero⟩

/-- The generator of the subgroup. -/
def generator : Point where
  x := 9671717474070082183213120605117400219616337014328744928644933853176787189663
  y := 16950150798460657717958625567821834550301663161624707787222815936182638968203

end Point

/-- A point in extended coordinates: `x = X / Z`, `y = Y / Z` and `x y = T / Z`. -/
structure Extended where
  X : Felt
  Y : Felt
  Z : Felt
  T : Felt

namespace Extended

/-- The neutral element. -/
def zero : Extended := ⟨0, 1, 1, 0⟩

/-- A point in extended coordinates. -/
def ofPoint (p : Point) : Extended := ⟨p.x, p.y, 1, p.x * p.y⟩

/-- The point that extended coordinates stand for. -/
def toPoint (p : Extended) : Point :=
  let z := Arith.inv p.Z
  ⟨p.X * z, p.Y * z⟩

/-- The sum of two points, equal or not. -/
def add (p q : Extended) : Extended :=
  let a := (p.Y - p.X) * (q.Y - q.X)
  let b := (p.Y + p.X) * (q.Y + q.X)
  let c := p.T * (edwardsD + edwardsD) * q.T
  let d := (p.Z + p.Z) * q.Z
  let e := b - a
  let f := d - c
  let g := d + c
  let h := b + a
  ⟨e * f, g * h, f * g, e * h⟩

end Extended

namespace Point

/-- The sum of two points. -/
def add (p q : Point) : Point := ((Extended.ofPoint p).add (Extended.ofPoint q)).toPoint

/-- The `n`-fold sum of a point with itself. -/
def mul (n : Nat) (p : Point) : Point :=
  (Arith.power Extended.add Extended.zero (Extended.ofPoint p) n).toPoint

/-- Eight times a point, which clears the part of small order. -/
def clearCofactor (p : Point) : Point := p.mul cofactor

/-- Whether a point of the curve lies in the subgroup of prime order. -/
def inSubgroup (p : Point) : Bool := p.mul subgroupOrder = zero

/-! ### Coordinates and compressed points -/

/-- The point with given coordinates, each of them canonical, if it is on the curve. -/
def ofCoordinates? (x y : Bytes32) : Option Point := do
  let x ← Felt.ofBytes32? x
  let y ← Felt.ofBytes32? y
  let p : Point := ⟨x, y⟩
  if p.onCurve then some p else none

/-- Whether an element is the larger one of itself and its negation. -/
def isLargest (x : Felt) : Bool := (fieldModulus - 1) / 2 < x.val

/-- The compressed form of a point. -/
def compress (p : Point) : Bytes32 :=
  ⟨Bytes.ofNatLE 32 (p.y.val + if isLargest p.x then Nat.pow 2 255 else 0), by simp⟩

/-- Why 32 bytes are not the compressed form of a point. -/
inductive EncodingFault where
  /-- The second coordinate is not below the modulus. -/
  | notCanonical
  /-- The curve equation has no solution because a denominator vanishes. -/
  | noDenominator
  /-- The curve equation asks for the root of a non-square. -/
  | noRoot
  /-- The point found is not on the curve. -/
  | offCurve
deriving DecidableEq, Repr

/-- The point whose compressed form is given: `x² = (1 - y²) / (-1 - d y²)`, and of the two roots
the one with the sign that the top bit asks for. -/
def decompress (word : Bytes32) : Except EncodingFault Point := do
  let value := Bytes.toNatLE word.bytes
  let sign : Bool := value.testBit 255
  let some y := Felt.ofNat? (value % Nat.pow 2 255) | throw .notCanonical
  let y2 := y * y
  let denominator := -1 - edwardsD * y2
  if denominator = 0 then throw .noDenominator
  let some x := fieldTwoPart.sqrt? ((1 - y2) * Arith.inv denominator) | throw .noRoot
  let p : Point := ⟨if isLargest x != sign then -x else x, y⟩
  if p.onCurve then pure p else throw .offCurve

end Point

end RollupWallet.Curve
