import Mathlib
import RollupWallet.Curve.Secp256k1
import RollupWallet.Proofs.Arith.Primality
import RollupWallet.Proofs.Arith.PrimeField

/-!
# Coordinates and scalars of layer 1 are fields

Both numbers of the curve of layer-1 keys are prime: the modulus of the coordinates
(`prime_prime`) and the order of the generator (`prime_order`).  So coordinates and scalars are
fields whose inverse is the one that runs.
-/

namespace RollupWallet.Curve.Secp256k1

open Arith

/-! ### Large primes that divide the modulus less one -/

private theorem prime_13331831 : Nat.Prime 13331831 := by
  refine prime_of_lucas 13 [(2, 1), (5, 1), (971, 1), (1373, 1)] ?_ (by decide)
  norm_num

set_option maxRecDepth 20000 in
private theorem prime_173378833005251801 : Nat.Prime 173378833005251801 := by
  refine prime_of_lucas 6 [(2, 3), (5, 2), (2621, 1), (24809, 1), (13331831, 1)] ?_ (by decide)
  simp only [List.forall_mem_cons, prime_13331831]
  norm_num

set_option maxRecDepth 20000 in
private theorem prime_22149492674086928081353 : Nat.Prime 22149492674086928081353 := by
  refine prime_of_lucas 5 [(2, 3), (3, 1), (5323, 1), (173378833005251801, 1)] ?_ (by decide)
  simp only [List.forall_mem_cons, prime_173378833005251801]
  norm_num

set_option maxRecDepth 20000 in
private theorem prime_132896956044521568488119 : Nat.Prime 132896956044521568488119 := by
  refine prime_of_lucas 6 [(2, 1), (3, 1), (22149492674086928081353, 1)] ?_ (by decide)
  simp only [List.forall_mem_cons, prime_22149492674086928081353]
  norm_num

private theorem prime_7240687 : Nat.Prime 7240687 := by
  refine prime_of_lucas 3 [(2, 1), (3, 1), (1206781, 1)] ?_ (by decide)
  norm_num

private theorem prime_107590001 : Nat.Prime 107590001 := by
  refine prime_of_lucas 3 [(2, 4), (5, 4), (7, 1), (29, 1), (53, 1)] ?_ (by decide)
  norm_num

set_option maxRecDepth 20000 in
private theorem prime_255515944373312847190720520512484175977 :
    Nat.Prime 255515944373312847190720520512484175977 := by
  refine prime_of_lucas 3
    [(2, 3), (7, 2), (11, 1), (1627, 1), (2657, 1), (4423, 1), (41201, 1), (96557, 1),
      (7240687, 1), (107590001, 1)] ?_ (by decide)
  simp only [List.forall_mem_cons, prime_7240687, prime_107590001]
  norm_num

set_option maxRecDepth 20000 in
private theorem prime_205115282021455665897114700593932402728804164701536103180137503955397371 :
    Nat.Prime 205115282021455665897114700593932402728804164701536103180137503955397371 := by
  refine prime_of_lucas 10
    [(2, 1), (3, 1), (5, 1), (29, 2), (31, 1), (7723, 1), (132896956044521568488119, 1),
      (255515944373312847190720520512484175977, 1)] ?_ (by decide)
  simp only [List.forall_mem_cons, prime_132896956044521568488119,
    prime_255515944373312847190720520512484175977]
  norm_num

/-! ### Large primes that divide the order less one -/

private theorem prime_4681609 : Nat.Prime 4681609 := by
  refine prime_of_lucas 23 [(2, 3), (3, 1), (97, 1), (2011, 1)] ?_ (by decide)
  norm_num

set_option maxRecDepth 20000 in
private theorem prime_107361793816595537 : Nat.Prime 107361793816595537 := by
  refine prime_of_lucas 3 [(2, 4), (16699, 1), (85831, 1), (4681609, 1)] ?_ (by decide)
  simp only [List.forall_mem_cons, prime_4681609]
  norm_num

private theorem prime_44706919 : Nat.Prime 44706919 := by
  refine prime_of_lucas 6 [(2, 1), (3, 1), (797, 1), (9349, 1)] ?_ (by decide)
  norm_num

set_option maxRecDepth 20000 in
private theorem prime_174723607534414371449 : Nat.Prime 174723607534414371449 := by
  refine prime_of_lucas 3
    [(2, 3), (17, 1), (59, 1), (4051, 1), (120233, 1), (44706919, 1)] ?_ (by decide)
  simp only [List.forall_mem_cons, prime_44706919]
  norm_num

private theorem prime_545358713 : Nat.Prime 545358713 := by
  refine prime_of_lucas 5 [(2, 3), (41, 1), (59, 1), (28181, 1)] ?_ (by decide)
  norm_num

private theorem prime_1627771 : Nat.Prime 1627771 := by
  refine prime_of_lucas 3 [(2, 1), (3, 1), (5, 1), (29, 1), (1871, 1)] ?_ (by decide)
  norm_num

private theorem prime_297159362677 : Nat.Prime 297159362677 := by
  refine prime_of_lucas 2 [(2, 2), (3, 2), (11, 1), (461, 1), (1627771, 1)] ?_ (by decide)
  simp only [List.forall_mem_cons, prime_1627771]
  norm_num

set_option maxRecDepth 20000 in
private theorem prime_29047611873442575647497758179 :
    Nat.Prime 29047611873442575647497758179 := by
  refine prime_of_lucas 2
    [(2, 1), (293, 1), (305873, 1), (545358713, 1), (297159362677, 1)] ?_ (by decide)
  simp only [List.forall_mem_cons, prime_545358713, prime_297159362677]
  norm_num

set_option maxRecDepth 20000 in
private theorem prime_341948486974166000522343609283189 :
    Nat.Prime 341948486974166000522343609283189 := by
  refine prime_of_lucas 2
    [(2, 2), (3, 3), (109, 1), (29047611873442575647497758179, 1)] ?_ (by decide)
  simp only [List.forall_mem_cons, prime_29047611873442575647497758179]
  norm_num

/-! ### The modulus and the order -/

set_option maxRecDepth 20000 in
/-- The modulus of the coordinates is prime. -/
theorem prime_prime : prime.Prime := by
  refine prime_of_lucas 3
    [(2, 1), (3, 1), (7, 1), (13441, 1),
      (205115282021455665897114700593932402728804164701536103180137503955397371, 1)] ?_ (by decide)
  simp only [List.forall_mem_cons,
    prime_205115282021455665897114700593932402728804164701536103180137503955397371]
  norm_num

set_option maxRecDepth 20000 in
/-- The order of the generator is prime. -/
theorem prime_order : order.Prime := by
  refine prime_of_lucas 7
    [(2, 6), (3, 1), (149, 1), (631, 1), (107361793816595537, 1), (174723607534414371449, 1),
      (341948486974166000522343609283189, 1)] ?_ (by decide)
  simp only [List.forall_mem_cons, prime_107361793816595537, prime_174723607534414371449,
    prime_341948486974166000522343609283189]
  norm_num

instance : Fact order.Prime := ⟨prime_order⟩

instance Coordinate.instField : Field Coordinate := primeField prime_prime (by decide)

instance Scalar.instField : Field Scalar := primeField prime_order (by decide)

/-- Fermat's theorem for coordinates. -/
theorem Coordinate.pow_prime_sub_one {x : Coordinate} (hx : x ≠ 0) : x ^ (prime - 1) = 1 := by
  have hcard : Fintype.card Coordinate = prime := Fintype.card_fin _
  have h := FiniteField.pow_card_sub_one_eq_one x hx
  rw [hcard] at h
  exact h

end RollupWallet.Curve.Secp256k1
