import Mathlib
import RollupWallet.Proofs.Arith.Power

/-!
# Primes by Lucas's test

A number `p` is prime if some `a` has order `p - 1` modulo `p`, and for that it is enough to look at
the powers with the exponents `p - 1` and `(p - 1) / q` for the primes `q` of `p - 1`.  The primes of
the library have more digits than trial division can handle, so each is given by its `a` and by the
factors of `p - 1` (`prime_of_lucas`), whose primes are given in the same way where they are large.

The powers are computed by `power`, so that checking a certificate is a short computation.
-/

namespace RollupWallet.Arith

/-- Powers modulo `p`, by squaring. -/
def powMod (p a n : ℕ) : ℕ := power (fun x y => x * y % p) (1 % p) (a % p) n

theorem powMod_eq (p a n : ℕ) : powMod p a n = a ^ n % p := by
  refine power_induct (R := fun x n => x = a ^ n % p) ?_ ?_ ?_ n
  · rw [pow_zero]
  · rw [pow_one]
  · rintro x y m n rfl rfl
    rw [← Nat.mul_mod, pow_add]

/-- The factors, each a prime with its exponent, and the orders that a certificate has to show. -/
def isCertificate (p a : ℕ) (factors : List (ℕ × ℕ)) : Bool :=
  1 < p && (factors.map fun f => f.1 ^ f.2).prod == p - 1 && powMod p a (p - 1) == 1 &&
    factors.all fun f => powMod p a ((p - 1) / f.1) != 1

theorem natCast_pow_eq_one_iff {p : ℕ} (hp : 1 < p) (a n : ℕ) :
    (a : ZMod p) ^ n = 1 ↔ powMod p a n = 1 := by
  rw [powMod_eq, ← Nat.cast_pow, ← Nat.cast_one, ZMod.natCast_eq_natCast_iff',
    Nat.mod_eq_of_lt hp]

/-- **Lucas's test.**  A certificate whose factors are prime proves its number prime. -/
theorem prime_of_lucas {p : ℕ} (a : ℕ) (factors : List (ℕ × ℕ))
    (hprime : ∀ f ∈ factors, f.1.Prime) (hcert : isCertificate p a factors = true) :
    p.Prime := by
  simp only [isCertificate, Bool.and_eq_true, decide_eq_true_eq, beq_iff_eq, List.all_eq_true,
    bne_iff_ne, ne_eq] at hcert
  obtain ⟨⟨⟨hp, hprod⟩, hfull⟩, hpart⟩ := hcert
  refine lucas_primality p a ((natCast_pow_eq_one_iff hp _ _).mpr hfull) ?_
  intro q hq hdvd
  rw [← hprod] at hdvd
  obtain ⟨power, hpower, hqpower⟩ := (Prime.dvd_prod_iff hq.prime).mp hdvd
  obtain ⟨f, hf, rfl⟩ := List.mem_map.mp hpower
  have heq : q = f.1 :=
    (Nat.prime_dvd_prime_iff_eq hq (hprime f hf)).mp (hq.dvd_of_dvd_pow hqpower)
  rw [heq, ne_eq, natCast_pow_eq_one_iff hp]
  exact hpart f hf

end RollupWallet.Arith
