import Mathlib
import RollupWallet.Hash.Mimc
import RollupWallet.Proofs.Field.SquareRoot

/-!
# The keyed permutation

A round adds the key and a constant and takes the seventh power.  Adding can be undone whatever is
added, so everything hangs on the power: it can be undone because seven is prime to the order of the
units (`Felt.pow_bijective_iff`).  That is a property of this exponent and this field.  Two, three and
thirteen divide the order of the units, so squares, cubes and thirteenth powers would run together
what the rounds keep apart.

From one round it follows for a row of rounds by induction on their constants, about which nothing
need be known (`Mimc.foldl_round_bijective`).
-/

namespace RollupWallet

/-! ### Powers -/

namespace Felt

theorem card_units : Fintype.card Feltˣ = fieldModulus - 1 := by
  rw [Fintype.card_units, Fintype.card_fin]

/-- An exponent that is one more than a multiple of the order of the units changes nothing. -/
theorem pow_eq_self {n : ℕ} (hn : n % (fieldModulus - 1) = 1) (x : Felt) : x ^ n = x := by
  by_cases hx : x = 0
  · have hpos : n ≠ 0 := by
      rintro rfl
      exact absurd hn (by decide)
    rw [hx, zero_pow hpos]
  · rw [← Nat.div_add_mod n (fieldModulus - 1), hn, pow_add, pow_mul, pow_modulus_sub_one hx, one_pow,
      one_mul, pow_one]

/-- **Which powers permute the field.** -/
theorem pow_bijective_iff {n : ℕ} :
    Function.Bijective (fun x : Felt => x ^ n) ↔ n.Coprime (fieldModulus - 1) := by
  constructor
  · intro hbijective
    apply Nat.coprime_of_dvd
    intro q hq hdvd hunits
    -- a unit of order `q` has the same power as one
    have hprime : Fact q.Prime := ⟨hq⟩
    obtain ⟨u, hu⟩ := exists_prime_orderOf_dvd_card q (card_units ▸ hunits)
    have hpow : u ^ n = 1 := orderOf_dvd_iff_pow_eq_one.mp (hu ▸ hdvd)
    have hone : (u : Felt) = 1 := by
      apply hbijective.injective
      show (u : Felt) ^ n = 1 ^ n
      rw [one_pow, ← Units.val_pow_eq_pow_val, hpow, Units.val_one]
    rw [Units.val_eq_one.mp hone, orderOf_one] at hu
    exact hq.one_lt.ne hu
  · intro hcoprime
    obtain ⟨root, -, hroot⟩ := Nat.exists_mul_mod_eq_one_of_coprime hcoprime (by decide)
    apply Function.bijective_iff_has_inverse.mpr
    refine ⟨fun y => y ^ root, fun x => ?_, fun y => ?_⟩
    · show (x ^ n) ^ root = x
      rw [← pow_mul, pow_eq_self hroot]
    · show (y ^ root) ^ n = y
      rw [← pow_mul, Nat.mul_comm, pow_eq_self hroot]

end Felt

/-! ### Rounds -/

namespace Hash.Mimc

theorem seventh_eq_pow (x : Felt) : seventh x = x ^ 7 := by
  show x * x * (x * x) * (x * x) * x = x ^ 7
  ring

theorem seventh_bijective : Function.Bijective seventh := by
  have hpow : seventh = fun x => x ^ 7 := funext seventh_eq_pow
  rw [hpow]
  exact Felt.pow_bijective_iff.mpr (by decide)

/-- A round can be undone, whatever its constant. -/
theorem round_bijective (key constant : Felt) :
    Function.Bijective fun x => round key x constant := by
  have hadd : Function.Bijective fun x : Felt => x + key + constant :=
    (Equiv.addRight constant).bijective.comp (Equiv.addRight key).bijective
  exact seventh_bijective.comp hadd

/-- Rounds in a row can be undone. -/
theorem foldl_round_bijective (constants : List Felt) (key : Felt) :
    Function.Bijective fun x => constants.foldl (round key) x := by
  induction constants with
  | nil => exact Function.bijective_id
  | cons constant constants ih => exact ih.comp (round_bijective key constant)

theorem round_eq (key x constant : Felt) : round key x constant = (x + key + constant) ^ 7 :=
  seventh_eq_pow _

/-- **The keyed permutation is one.**  Under every key and whatever the round constants are, seventh
powers of the sum with key and constant, and the key added at the end, are a permutation of the
field. -/
theorem permute_bijective (constants : List Felt) (key : Felt) :
    Function.Bijective (permute constants key) ∧
      ∀ x, permute constants key x =
        constants.foldl (fun m constant => (m + key + constant) ^ 7) x + key := by
  refine ⟨?_, fun x => ?_⟩
  · exact (Equiv.addRight key).bijective.comp (foldl_round_bijective constants key)
  · have hround : round key = fun m constant => (m + key + constant) ^ 7 := by
      funext m constant
      exact round_eq key m constant
    rw [permute, hround]

end Hash.Mimc

end RollupWallet
