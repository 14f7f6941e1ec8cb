import Mathlib
import RollupWallet.Error.Basic

/-!
# Results step by step

A computation that may fail gives a result exactly if each of its steps does (`bind_eq_ok`), and it
fails exactly as the first step that fails (`bind_eq_error`).  The result of a step is not changed
when its errors become errors of the library (`lift_eq_ok`).

So what all errors of the steps satisfy, all errors of the computation satisfy (`FailsWith`).
-/

namespace RollupWallet

variable {ε α β : Type}

theorem ok_bind (a : α) (f : α → Except ε β) : .ok a >>= f = f a := rfl

theorem error_bind (e : ε) (f : α → Except ε β) : .error e >>= f = .error e := rfl

theorem bind_eq_ok {x : Except ε α} {f : α → Except ε β} {b : β} :
    x >>= f = .ok b ↔ ∃ a, x = .ok a ∧ f a = .ok b := by
  constructor
  · intro h
    cases x with
    | error e => cases h
    | ok a => exact ⟨a, rfl, h⟩
  · rintro ⟨a, rfl, h⟩
    exact h

/-- A step without a result leaves only whether it passes. -/
theorem bind_unit_eq_ok {x : Except ε Unit} {f : Unit → Except ε β} {b : β} :
    x >>= f = .ok b ↔ x = .ok () ∧ f () = .ok b := by
  rw [bind_eq_ok]
  exact ⟨fun ⟨_, hx, hf⟩ => ⟨hx, hf⟩, fun ⟨hx, hf⟩ => ⟨(), hx, hf⟩⟩

theorem exists_eq_error_iff {x : Except ε α} : (∃ e, x = .error e) ↔ ¬ ∃ a, x = .ok a := by
  cases x with
  | error e => exact iff_of_true ⟨e, rfl⟩ nofun
  | ok a => exact iff_of_false nofun (not_not.mpr ⟨a, rfl⟩)

theorem map_eq_ok {x : Except ε α} {f : α → β} {b : β} :
    f <$> x = .ok b ↔ ∃ a, x = .ok a ∧ f a = b := by
  constructor
  · intro h
    cases x with
    | error e => cases h
    | ok a => exact ⟨a, rfl, Except.ok.inj h⟩
  · rintro ⟨a, rfl, rfl⟩
    rfl

theorem bind_eq_error {x : Except ε α} {f : α → Except ε β} {e : ε} :
    x >>= f = .error e ↔ x = .error e ∨ ∃ a, x = .ok a ∧ f a = .error e := by
  constructor
  · intro h
    cases x with
    | error e' => exact Or.inl (congrArg Except.error (Except.error.inj h))
    | ok a => exact Or.inr ⟨a, rfl, h⟩
  · rintro (rfl | ⟨a, rfl, h⟩)
    · rfl
    · exact h

/-- A result that stands under a condition is there exactly if the condition holds. -/
theorem exists_ite_eq_ok_iff {condition : Prop} [Decidable condition] {a : α} {e : ε} :
    (∃ b, (if condition then .ok a else .error e : Except ε α) = .ok b) ↔ condition := by
  split
  · next h => exact iff_of_true ⟨a, rfl⟩ h
  · next h => exact iff_of_false nofun h

/-- A step that fails under a condition is passed exactly if the condition does not hold. -/
theorem guard_eq_ok {condition : Prop} [Decidable condition] {e : ε} {f : β → Except ε α}
    {x : Except ε α} {a : α} :
    (if condition then throw e >>= f else x) = .ok a ↔ ¬ condition ∧ x = .ok a := by
  split
  · next h => exact iff_of_false nofun fun hx => hx.1 h
  · next h => exact (and_iff_right h).symm

/-- Where errors become errors of another type, a result stays what it is. -/
theorem mapError_eq_ok {ε' : Type} {f : ε → ε'} {x : Except ε α} {a : α} :
    x.mapError f = .ok a ↔ x = .ok a := by
  cases x with
  | error e => exact ⟨nofun, nofun⟩
  | ok b =>
      constructor
      · intro h
        exact congrArg Except.ok (Except.ok.inj h)
      · intro h
        rw [Except.ok.inj h]
        rfl

theorem mapError_eq_error {ε' : Type} {f : ε → ε'} {x : Except ε α} {e : ε'} :
    x.mapError f = .error e ↔ ∃ e', x = .error e' ∧ f e' = e := by
  cases x with
  | error e' =>
      constructor
      · intro h
        exact ⟨e', rfl, Except.error.inj h⟩
      · rintro ⟨_, heq, rfl⟩
        rw [← Except.error.inj heq]
        rfl
  | ok a => exact ⟨nofun, nofun⟩

/-! Errors of input, of keys and of texts become errors of the library. -/

theorem lift_eq_ok {x : Except InvalidInput α} {a : α} :
    (liftM x : Except WalletError α) = .ok a ↔ x = .ok a :=
  mapError_eq_ok

theorem lift_eq_error {x : Except InvalidInput α} {e : WalletError} :
    (liftM x : Except WalletError α) = .error e ↔ ∃ e', x = .error e' ∧ .invalidInput e' = e :=
  mapError_eq_error

theorem lift_crypto_eq_ok {x : Except CryptoError α} {a : α} :
    (liftM x : Except WalletError α) = .ok a ↔ x = .ok a :=
  mapError_eq_ok

theorem lift_json_eq_ok {x : Except Json.Fault α} {a : α} :
    (liftM x : Except WalletError α) = .ok a ↔ x = .ok a :=
  mapError_eq_ok

theorem lift_crypto_ok (a : α) :
    (liftM (.ok a : Except CryptoError α) : Except WalletError α) = .ok a := rfl

theorem lift_crypto_error (e : CryptoError) :
    (liftM (.error e : Except CryptoError α) : Except WalletError α) = .error (.crypto e) := rfl

/-! ### The errors of a computation -/

/-- Every error of a computation satisfies a condition. -/
def FailsWith (P : ε → Prop) (x : Except ε α) : Prop := ∀ e, x = .error e → P e

namespace FailsWith

variable {P : ε → Prop} {x : Except ε α}

@[simp] theorem of_ok (a : α) : FailsWith P (.ok a) := nofun

@[simp] theorem of_pure (a : α) : FailsWith P (pure a : Except ε α) := nofun

@[simp] theorem error_iff {e : ε} : FailsWith P (.error e : Except ε α) ↔ P e :=
  ⟨fun h => h e rfl, fun h _ heq => Except.error.inj heq ▸ h⟩

@[simp] theorem throw_iff {e : ε} : FailsWith P (throw e : Except ε α) ↔ P e := error_iff

theorem mono {Q : ε → Prop} (hx : FailsWith P x) (h : ∀ e, P e → Q e) : FailsWith Q x :=
  fun e he => h e (hx e he)

theorem bind_iff {f : α → Except ε β} (hx : FailsWith P x) :
    FailsWith P (x >>= f) ↔ ∀ a, x = .ok a → FailsWith P (f a) := by
  constructor
  · intro h a ha e he
    exact h e (bind_eq_error.mpr (Or.inr ⟨a, ha, he⟩))
  · intro hf e he
    rcases bind_eq_error.mp he with hfail | ⟨a, ha, hfail⟩
    · exact hx e hfail
    · exact hf a ha e hfail

theorem bind {f : α → Except ε β} (hx : FailsWith P x) (hf : ∀ a, FailsWith P (f a)) :
    FailsWith P (x >>= f) :=
  hx.bind_iff.mpr fun a _ => hf a

theorem ite {condition : Prop} [Decidable condition] {a : α} {e : ε} (he : P e) :
    FailsWith P (if condition then .ok a else .error e : Except ε α) := by
  split
  · exact of_ok a
  · exact error_iff.mpr he

/-- A step that fails under a condition, and the steps after it. -/
theorem guard {condition : Prop} [Decidable condition] {e : ε} {f : β → Except ε α} (he : P e)
    (hx : FailsWith P x) : FailsWith P (if condition then throw e >>= f else x) := by
  split
  · exact throw_iff.mpr he
  · exact hx

theorem map {f : α → β} (hx : FailsWith P x) : FailsWith P (f <$> x) := by
  cases x with
  | error e => exact error_iff.mpr (error_iff.mp hx)
  | ok a => exact of_ok (f a)

theorem mapM {f : β → Except ε α} {items : List β} (h : ∀ item ∈ items, FailsWith P (f item)) :
    FailsWith P (items.mapM f) := by
  induction items with
  | nil => exact of_ok []
  | cons item items ih =>
      obtain ⟨hitem, hitems⟩ := List.forall_mem_cons.mp h
      rw [List.mapM_cons]
      exact hitem.bind fun _ => (ih hitems).bind fun _ => of_pure _

end FailsWith

theorem FailsWith.mapError {ε' : Type} {f : ε → ε'} {P : ε' → Prop} {x : Except ε α}
    (h : FailsWith (fun e => P (f e)) x) : FailsWith P (x.mapError f) := by
  intro e he
  obtain ⟨e', hfail, rfl⟩ := mapError_eq_error.mp he
  exact h e' hfail

theorem FailsWith.lift {P : WalletError → Prop} {x : Except InvalidInput α}
    (h : FailsWith (fun e => P (.invalidInput e)) x) :
    FailsWith P (liftM x : Except WalletError α) :=
  .mapError h

theorem FailsWith.lift_crypto {P : WalletError → Prop} {x : Except CryptoError α}
    (h : FailsWith (fun e => P (.crypto e)) x) : FailsWith P (liftM x : Except WalletError α) :=
  .mapError h

end RollupWallet
