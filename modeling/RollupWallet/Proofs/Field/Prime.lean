import Mathlib
import RollupWallet.Field
import RollupWallet.Proofs.Arith.Primality
import RollupWallet.Proofs.Arith.PrimeField

/-!
# The scalar field is a field

The modulus is prime (`prime_fieldModulus`), which makes the elements a field (`Felt.instField`).
-/

namespace RollupWallet

open Arith

/-! ### Large primes that divide the modulus less one -/

private theorem prime_405928799 : Nat.Prime 405928799 := by
  refine prime_of_lucas 22 [(2, 1), (11, 1), (3691, 1), (4999, 1)] ?_ (by decide)
  norm_num

private theorem prime_12048837557 : Nat.Prime 12048837557 := by
  refine prime_of_lucas 2 [(2, 2), (7, 2), (661, 1), (93001, 1)] ?_ (by decide)
  norm_num

set_option maxRecDepth 20000 in
private theorem prime_5156902474397 : Nat.Prime 5156902474397 := by
  refine prime_of_lucas 2 [(2, 2), (107, 1), (12048837557, 1)] ?_ (by decide)
  simp only [List.forall_mem_cons, prime_12048837557]
  norm_num

set_option maxRecDepth 20000 in
private theorem prime_1670836401704629 : Nat.Prime 1670836401704629 := by
  refine prime_of_lucas 2 [(2, 2), (3, 4), (5156902474397, 1)] ?_ (by decide)
  simp only [List.forall_mem_cons, prime_5156902474397]
  norm_num

private theorem prime_1593227 : Nat.Prime 1593227 := by
  refine prime_of_lucas 2 [(2, 1), (19, 1), (41927, 1)] ?_ (by decide)
  norm_num

private theorem prime_639533339 : Nat.Prime 639533339 := by
  refine prime_of_lucas 2 [(2, 1), (229, 1), (853, 1), (1637, 1)] ?_ (by decide)
  norm_num

set_option maxRecDepth 20000 in
private theorem prime_65865678001877903 : Nat.Prime 65865678001877903 := by
  refine prime_of_lucas 5 [(2, 1), (83, 1), (379, 1), (1637, 1), (639533339, 1)] ?_
    (by decide)
  simp only [List.forall_mem_cons, prime_639533339]
  norm_num

set_option maxRecDepth 20000 in
private theorem prime_13818364434197438864469338081 :
    Nat.Prime 13818364434197438864469338081 := by
  refine prime_of_lucas 3
    [(2, 5), (5, 1), (823, 1), (1593227, 1), (65865678001877903, 1)] ?_ (by decide)
  simp only [List.forall_mem_cons, prime_1593227, prime_65865678001877903]
  norm_num

/-! ### The modulus -/

set_option maxRecDepth 20000 in
/-- The modulus of the scalar field is prime. -/
theorem prime_fieldModulus : fieldModulus.Prime := by
  refine prime_of_lucas 5
    [(2, 28), (3, 2), (13, 1), (29, 1), (983, 1), (11003, 1), (237073, 1), (405928799, 1),
      (1670836401704629, 1), (13818364434197438864469338081, 1)] ?_ (by decide)
  simp only [List.forall_mem_cons, prime_405928799, prime_1670836401704629,
    prime_13818364434197438864469338081]
  norm_num

namespace Felt

instance instField : Field Felt := primeField prime_fieldModulus (by decide)

theorem inv_eq (x : Felt) : Arith.inv x = x⁻¹ := rfl

theorem two_ne_zero : (2 : Felt) ≠ 0 := by decide

end Felt

end RollupWallet
