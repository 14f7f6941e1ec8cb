import Mathlib
import RollupWallet.Hash.Keccak
import RollupWallet.Proofs.Bytes

/-!
# Keccak-256 on numbers

As for SHA-256, the rounds are stated on the numbers that the lanes stand for.  To find a lane in a
vector of 25, the vector is walked through, so the numbers are kept in five rows of five instead.
The rounds compute the same lanes (`Lanes.ofState_round`), a block is cut out of the number that the
whole message writes, and so the hash of given bytes is found with arithmetic on numbers
(`bytes_keccak256`).

Finding a lane by its column and row takes most of the time of such a computation, so the rounds that
are run name every lane they read (`Lanes.unrolled_eq_round`).
-/

namespace RollupWallet.Hash.Keccak

/-- Five things in a row. -/
structure Five (α : Type) where
  (a b c d e : α)

namespace Five

variable {α β γ : Type}

def map (f : α → β) (five : Five α) : Five β := ⟨f five.a, f five.b, f five.c, f five.d, f five.e⟩

def zipWith (f : α → β → γ) (x : Five α) (y : Five β) : Five γ :=
  ⟨f x.a y.a, f x.b y.b, f x.c y.c, f x.d y.d, f x.e y.e⟩

def get (five : Five α) : ℕ → α
  | 0 => five.a
  | 1 => five.b
  | 2 => five.c
  | 3 => five.d
  | _ => five.e

def ofFn (f : ℕ → α) : Five α := ⟨f 0, f 1, f 2, f 3, f 4⟩

theorem get_ofFn_mod (f : ℕ → α) (i : ℕ) : (ofFn f).get (i % 5) = f (i % 5) := by
  have hlt : i % 5 < 5 := Nat.mod_lt i (by decide)
  generalize i % 5 = j at hlt ⊢
  interval_cases j <;> rfl

theorem ofFn_congr {f g : ℕ → α} (h : ∀ i < 5, f i = g i) : ofFn f = ofFn g := by
  rw [ofFn, ofFn, h 0 (by decide), h 1 (by decide), h 2 (by decide), h 3 (by decide),
    h 4 (by decide)]

end Five

/-- A number of 64 bits turned left. -/
def turn (w n : ℕ) : ℕ :=
  if n = 0 then w else ((w <<< n) % 18446744073709551616) ||| (w >>> (64 - n))

theorem toNat_rotateLeft {word : UInt64} {n : ℕ} (hn : n < 64) :
    (rotateLeft word n).toNat = turn word.toNat n := by
  unfold rotateLeft turn
  by_cases h0 : n = 0
  · rw [if_pos h0, if_pos h0]
  · have hleft : n.toUInt64.toNat % 64 = n := by
      rw [Nat.toUInt64_eq, UInt64.toNat_ofNat']
      omega
    have hright : (64 - n).toUInt64.toNat % 64 = 64 - n := by
      rw [Nat.toUInt64_eq, UInt64.toNat_ofNat']
      omega
    rw [if_neg h0, if_neg h0, UInt64.toNat_or, UInt64.toNat_shiftLeft, UInt64.toNat_shiftRight,
      hleft, hright]

theorem offsets_lt : ∀ i : Fin 25, offsets.get i < 64 := by decide

theorem getD_offsets (i : Fin 25) : offsets.toList.getD i.val 0 = offsets.get i := by
  simp [Vector.get_eq_getElem]

/-- The lanes as numbers, row by row. -/
abbrev Lanes := Five (Five ℕ)

namespace Lanes

/-- The lane of a column and a row, both taken modulo five. -/
def lane (lanes : Lanes) (x y : ℕ) : ℕ := (lanes.get (y % 5)).get (x % 5)

/-- The lanes with given numbers. -/
def ofFn (f : ℕ → ℕ → ℕ) : Lanes := Five.ofFn fun y => Five.ofFn fun x => f x y

theorem ofFn_congr {f g : ℕ → ℕ → ℕ} (h : ∀ x < 5, ∀ y < 5, f x y = g x y) : ofFn f = ofFn g :=
  Five.ofFn_congr fun y hy => Five.ofFn_congr fun x hx => h x hx y hy

/-- The numbers of a state. -/
def ofState (state : State) : Lanes := ofFn fun x y => (Keccak.lane state x y).toNat

theorem lane_ofState (state : State) (x y : ℕ) :
    lane (ofState state) x y = (Keccak.lane state x y).toNat := by
  rw [lane, ofState, ofFn, Five.get_ofFn_mod, Five.get_ofFn_mod]
  simp only [Keccak.lane, Nat.mod_mod]

/-- The numbers of a state that is given lane by lane. -/
theorem ofState_ofFn {f : Fin 25 → UInt64} {g : ℕ → ℕ → ℕ}
    (h : ∀ x y, (hx : x < 5) → (hy : y < 5) → (f ⟨x + 5 * y, by omega⟩).toNat = g x y) :
    ofState (Vector.ofFn f) = ofFn g := by
  refine ofFn_congr fun x hx y hy => ?_
  rw [← h x y hx hy]
  simp [Keccak.lane, Vector.get_eq_getElem, Nat.mod_eq_of_lt hx, Nat.mod_eq_of_lt hy]

def columns (lanes : Lanes) : Five ℕ := .ofFn fun x =>
  lane lanes x 0 ^^^ lane lanes x 1 ^^^ lane lanes x 2 ^^^ lane lanes x 3 ^^^ lane lanes x 4

def mix (columns : Five ℕ) : Five ℕ := .ofFn fun x =>
  columns.get ((x + 4) % 5) ^^^ turn (columns.get ((x + 1) % 5)) 1

def move (lanes : Lanes) (mix : Five ℕ) : Lanes := ofFn fun column row =>
  let x := (column + 3 * row) % 5
  turn (lane lanes x column ^^^ mix.get x) (offsets.toList.getD (x + 5 * column) 0)

def combine (moved : Lanes) (constant : ℕ) : Lanes := ofFn fun x y =>
  let combined := lane moved x y ^^^
    ((18446744073709551615 - lane moved (x + 1) y) &&& lane moved (x + 2) y)
  if x + 5 * y = 0 then combined ^^^ constant else combined

/-- One round. -/
def round (lanes : Lanes) (constant : ℕ) : Lanes :=
  combine (move lanes (mix (columns lanes))) constant

/-- A round on words is a round on their numbers. -/
theorem ofState_round (state : State) (constant : UInt64) :
    ofState (Keccak.round state constant) = round (ofState state) constant.toNat := by
  unfold Keccak.round
  extract_lets column mixed moved
  have hcolumn : ∀ x, (columns (ofState state)).get (x % 5) =
      (column.get ⟨x % 5, Nat.mod_lt x (by decide)⟩).toNat := by
    intro x
    rw [columns, Five.get_ofFn_mod]
    simp only [lane_ofState, column, Vector.get_ofFn, UInt64.toNat_xor]
  have hmixed : ∀ x, (mix (columns (ofState state))).get (x % 5) =
      (mixed.get ⟨x % 5, Nat.mod_lt x (by decide)⟩).toNat := by
    intro x
    rw [mix, Five.get_ofFn_mod, hcolumn, hcolumn]
    simp only [mixed, Vector.get_ofFn, UInt64.toNat_xor, toNat_rotateLeft (by decide : 1 < 64)]
  have hmoved : ofState moved = move (ofState state) (mix (columns (ofState state))) := by
    refine ofState_ofFn fun column row hcolumn hrow => ?_
    have hmod : (column + 5 * row) % 5 = column := by omega
    have hdiv : (column + 5 * row) / 5 = row := by omega
    simp only [hmod, hdiv, hmixed, lane_ofState]
    rw [toNat_rotateLeft (offsets_lt _), UInt64.toNat_xor, ← getD_offsets]
  have hones : UInt64.size - 1 = 18446744073709551615 := rfl
  rw [round, ← hmoved]
  refine ofState_ofFn fun x y hx hy => ?_
  have hmod : (x + 5 * y) % 5 = x := by omega
  have hdiv : (x + 5 * y) / 5 = y := by omega
  simp only [hmod, hdiv, lane_ofState]
  split <;> simp only [UInt64.toNat_xor, UInt64.toNat_and, UInt64.toNat_not, hones]

/-! The lanes by their names. The operations on numbers stand here without their signs, behind
which they would have to be looked up for every lane. -/

/-- A number of 64 bits turned left by fewer than 64 bits, but by one at least. -/
def rotate (w n : ℕ) : ℕ :=
  ((w.shiftLeft n).mod 18446744073709551616).lor (w.shiftRight (Nat.sub 64 n))

/-- What each column gets from its neighbours. -/
def spread (lanes : Lanes) : Five ℕ :=
  let sum := (((lanes.a.zipWith Nat.xor lanes.b).zipWith Nat.xor lanes.c).zipWith Nat.xor
    lanes.d).zipWith Nat.xor lanes.e
  ⟨sum.e.xor (rotate sum.b 1), sum.a.xor (rotate sum.c 1), sum.b.xor (rotate sum.d 1),
    sum.c.xor (rotate sum.e 1), sum.d.xor (rotate sum.a 1)⟩

/-- Every lane turned and moved to its new place. -/
def moved (lanes : Lanes) : Lanes :=
  ⟨⟨lanes.a.a, rotate lanes.b.b 44, rotate lanes.c.c 43, rotate lanes.d.d 21, rotate lanes.e.e 14⟩,
    ⟨rotate lanes.a.d 28, rotate lanes.b.e 20, rotate lanes.c.a 3, rotate lanes.d.b 45,
      rotate lanes.e.c 61⟩,
    ⟨rotate lanes.a.b 1, rotate lanes.b.c 6, rotate lanes.c.d 25, rotate lanes.d.e 8,
      rotate lanes.e.a 18⟩,
    ⟨rotate lanes.a.e 27, rotate lanes.b.a 36, rotate lanes.c.b 10, rotate lanes.d.c 15,
      rotate lanes.e.d 56⟩,
    ⟨rotate lanes.a.c 62, rotate lanes.b.d 55, rotate lanes.c.e 39, rotate lanes.d.a 41,
      rotate lanes.e.b 2⟩⟩

/-- Every lane of a row combined with the two behind it. -/
def combined (row : Five ℕ) : Five ℕ :=
  let behind (x y z : ℕ) : ℕ := x.xor ((Nat.sub 18446744073709551615 y).land z)
  ⟨behind row.a row.b row.c, behind row.b row.c row.d, behind row.c row.d row.e,
    behind row.d row.e row.a, behind row.e row.a row.b⟩

/-- One round, lane by lane. -/
def unrolled (lanes : Lanes) (constant : ℕ) : Lanes :=
  let rows := (moved (lanes.map (Five.zipWith Nat.xor · (spread lanes)))).map combined
  { rows with a := { rows.a with a := rows.a.a.xor constant } }

theorem unrolled_eq_round (lanes : Lanes) (constant : ℕ) :
    unrolled lanes constant = round lanes constant := rfl

/-- The permutation of 24 rounds. -/
def permute (lanes : Lanes) : Lanes := (roundConstants.map UInt64.toNat).foldl unrolled lanes

theorem ofState_permute (state : State) :
    ofState (Keccak.permute state) = permute (ofState state) := by
  rw [Keccak.permute, permute]
  generalize roundConstants = constants
  induction constants generalizing state with
  | nil => rfl
  | cons constant constants ih =>
      rw [List.foldl_cons, ih, ofState_round, List.map_cons, List.foldl_cons, unrolled_eq_round]

/-- Adds a block, given as a number, to the lanes and permutes. -/
def absorb (lanes : Lanes) (block : ℕ) : Lanes :=
  permute <| ofFn fun x y =>
    lane lanes x y ^^^ (block / 256 ^ (8 * (x + 5 * y)) % 18446744073709551616)

theorem ofState_absorb (state : State) (block : Bytes) :
    ofState (Keccak.absorb state block) = absorb (ofState state) (Bytes.toNatLE block) := by
  have hword : 256 ^ 8 = 18446744073709551616 := by decide
  rw [Keccak.absorb, ofState_permute]
  refine congrArg permute (ofState_ofFn fun x y hx hy => ?_)
  rw [UInt64.toNat_xor, lane_ofState, Nat.toUInt64_eq, UInt64.toNat_ofNat', Bytes.toNatLE_take,
    Bytes.toNatLE_drop, hword, Nat.mod_mod]
  simp only [Keccak.lane, Nat.mod_eq_of_lt hx, Nat.mod_eq_of_lt hy]

/-- The lanes after a padded message, whose blocks are cut out of the number that it writes. -/
def absorbAll (message : Bytes) : Lanes :=
  let padded := pad message
  let value := Bytes.toNatLE padded
  (List.range (padded.length / rate)).foldl
    (fun lanes i => absorb lanes (value / 256 ^ (rate * i) % 256 ^ rate)) (ofFn fun _ _ => 0)

theorem ofState_absorbAll (message : Bytes) :
    ofState (Keccak.absorbAll message) = absorbAll message := by
  have hzero : ofState (Vector.replicate 25 0) = ofFn fun _ _ => 0 := rfl
  simp only [Keccak.absorbAll, absorbAll, ← hzero]
  generalize List.range ((pad message).length / rate) = indices
  generalize Vector.replicate 25 (0 : UInt64) = state
  induction indices generalizing state with
  | nil => rfl
  | cons i indices ih =>
      rw [List.foldl_cons, ih, ofState_absorb, Bytes.toNatLE_take, Bytes.toNatLE_drop,
        List.foldl_cons]

/-- The digest of a message. -/
def hash (message : Bytes) : Bytes :=
  let lanes := absorbAll message
  Bytes.ofNatLE 8 (lane lanes 0 0) ++ Bytes.ofNatLE 8 (lane lanes 1 0) ++
    Bytes.ofNatLE 8 (lane lanes 2 0) ++ Bytes.ofNatLE 8 (lane lanes 3 0)

end Lanes

end RollupWallet.Hash.Keccak

namespace RollupWallet.Hash

open Keccak

/-- **The hash of a message, with arithmetic on numbers.** -/
theorem bytes_keccak256 (message : Bytes) : (keccak256 message).bytes = Lanes.hash message := by
  simp only [Lanes.hash, ← Lanes.ofState_absorbAll, Lanes.lane_ofState]
  rfl

end RollupWallet.Hash
