import Mathlib
import RollupWallet.Bytes.Lemmas
import RollupWallet.Field

/-!
# Field elements in bytes

An element is read back from the 32 bytes that it is written as (`Felt.ofBytes32?_toBytes32`).
-/

namespace RollupWallet.Felt

theorem val_lt_bytes (x : Felt) : x.val < 256 ^ 32 :=
  Nat.lt_trans x.isLt (by decide)

theorem ofNat?_eq_some_iff {n : Nat} {x : Felt} : ofNat? n = some x ↔ n = x.val := by
  refine ⟨fun h => ?_, fun h => h ▸ ofNat?_val x⟩
  unfold ofNat? at h
  split at h
  · rw [← Option.some.inj h]
  · cases h

@[simp] theorem toNat_toBytes32 (x : Felt) : x.toBytes32.toNat = x.val := by
  rw [toBytes32, FixedBytes.toNat_ofNat, Nat.mod_eq_of_lt x.val_lt_bytes]

@[simp] theorem ofBytes32?_toBytes32 (x : Felt) : ofBytes32? x.toBytes32 = some x := by
  rw [ofBytes32?, toNat_toBytes32, ofNat?_val]

end RollupWallet.Felt
