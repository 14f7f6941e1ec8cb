import Mathlib
import RollupWallet.Curve.Edwards
import RollupWallet.Proofs.Arith.Primality

/-!
# The order of the subgroup is a prime

The number of points of the subgroup that signatures live in is prime (`prime_subgroupOrder`), so
every point of that subgroup other than zero generates it.
-/

namespace RollupWallet.Curve

open Arith

/-! ### Large primes that divide the order less one -/

private theorem prime_25485742523 : Nat.Prime 25485742523 := by
  refine prime_of_lucas 2 [(2, 1), (43189, 1), (295049, 1)] ?_ (by decide)
  norm_num

set_option maxRecDepth 20000 in
private theorem prime_202795150404015601 : Nat.Prime 202795150404015601 := by
  refine prime_of_lucas 7 [(2, 4), (3, 1), (5, 2), (19, 1), (349, 1), (25485742523, 1)] ?_
    (by decide)
  simp only [List.forall_mem_cons, prime_25485742523]
  norm_num

set_option maxRecDepth 20000 in
private theorem prime_431548080059745198929 : Nat.Prime 431548080059745198929 := by
  refine prime_of_lucas 3 [(2, 4), (7, 1), (19, 1), (202795150404015601, 1)] ?_ (by decide)
  simp only [List.forall_mem_cons, prime_202795150404015601]
  norm_num

set_option maxRecDepth 20000 in
private theorem prime_32151195060611136810608359 : Nat.Prime 32151195060611136810608359 := by
  refine prime_of_lucas 3 [(2, 1), (3, 2), (4139, 1), (431548080059745198929, 1)] ?_ (by decide)
  simp only [List.forall_mem_cons, prime_431548080059745198929]
  norm_num

private theorem prime_10206821 : Nat.Prime 10206821 := by
  refine prime_of_lucas 2 [(2, 2), (5, 1), (13, 1), (37, 1), (1061, 1)] ?_ (by decide)
  norm_num

private theorem prime_81654569 : Nat.Prime 81654569 := by
  refine prime_of_lucas 3 [(2, 3), (10206821, 1)] ?_ (by decide)
  simp only [List.forall_mem_cons, prime_10206821]
  norm_num

set_option maxRecDepth 20000 in
private theorem prime_27892051421815855583579 : Nat.Prime 27892051421815855583579 := by
  refine prime_of_lucas 2
    [(2, 1), (23, 1), (521, 1), (27743, 1), (513749, 1), (81654569, 1)] ?_ (by decide)
  simp only [List.forall_mem_cons, prime_81654569]
  norm_num

set_option maxRecDepth 20000 in
private theorem prime_1863691091902891838383581623 :
    Nat.Prime 1863691091902891838383581623 := by
  refine prime_of_lucas 5 [(2, 1), (33409, 1), (27892051421815855583579, 1)] ?_ (by decide)
  simp only [List.forall_mem_cons, prime_27892051421815855583579]
  norm_num

set_option maxRecDepth 20000 in
private theorem prime_178259130663561045147472537592047227885001 :
    Nat.Prime 178259130663561045147472537592047227885001 := by
  refine prime_of_lucas 14
    [(2, 3), (3, 2), (5, 4), (6323, 1), (336157, 1), (1863691091902891838383581623, 1)] ?_
    (by decide)
  simp only [List.forall_mem_cons, prime_1863691091902891838383581623]
  norm_num

/-! ### The order -/

set_option maxRecDepth 20000 in
/-- The order of the subgroup is prime. -/
theorem prime_subgroupOrder : subgroupOrder.Prime := by
  refine prime_of_lucas 31
    [(2, 4), (3, 1), (5, 1), (11, 2), (17, 1), (967, 1), (32151195060611136810608359, 1),
      (178259130663561045147472537592047227885001, 1)] ?_ (by decide)
  simp only [List.forall_mem_cons, prime_32151195060611136810608359,
    prime_178259130663561045147472537592047227885001]
  norm_num

end RollupWallet.Curve
