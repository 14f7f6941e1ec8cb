import RollupWallet.Arith.Power

/-!
# Arithmetic modulo a prime

Residues are `Fin p`. Inverses are powers with exponent `p - 2`, and square roots follow Tonelli
and Shanks: a candidate is computed from the decomposition `p - 1 = 2 ^ s * q` and kept only if
its square is the argument, so a root that is returned is a root (`sqrt?_mul_self`).
-/

namespace RollupWallet.Arith

variable {p : Nat}

/-- One as a residue. Any residue shows that the modulus is positive. -/
def unit (x : Fin p) : Fin p := ⟨1 % p, Nat.mod_lt 1 x.pos⟩

/-- The `n`-th power of a residue. -/
def pow (x : Fin p) (n : Nat) : Fin p := power (· * ·) (unit x) x n

/-- The inverse of a residue modulo a prime; zero for zero. -/
def inv (x : Fin p) : Fin p := pow x (p - 2)

/-- How a modulus splits: `p - 1 = 2 ^ twos * odd`, with an element of order `2 ^ twos`. -/
structure TwoPart (p : Nat) where
  twos : Nat
  odd : Nat
  generator : Fin p

namespace TwoPart

/-- Halves the order of `t` until it is one. A round keeps `root * root = a * t`; `c` has twice the
order that `t` is known to have. -/
def descend : (rounds : Nat) → (c root t : Fin p) → Fin p
  | 0, _, root, _ => root
  | rounds + 1, c, root, t =>
    let c2 := c * c
    if pow t (Nat.pow 2 rounds) = unit t then descend rounds c2 root t
    else descend rounds c2 (root * c) (t * c2)

/-- A square root, if there is one. -/
def sqrt? (part : TwoPart p) (a : Fin p) : Option (Fin p) :=
  let root := descend (part.twos - 1) part.generator (pow a ((part.odd + 1) / 2)) (pow a part.odd)
  if root * root = a then some root else none

theorem sqrt?_mul_self {part : TwoPart p} {a root : Fin p} (h : part.sqrt? a = some root) :
    root * root = a := by
  simp only [sqrt?] at h
  split at h
  · cases h; assumption
  · cases h

end TwoPart

end RollupWallet.Arith
