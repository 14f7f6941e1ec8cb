import RollupWallet.Text.Utf8

/-!
# Hexadecimal text

Bytes are written as two lower-case digits each. Reading takes digits of either case and names the
first flaw: an odd number of digits, or else the first byte that is no digit. Reading gives back
what was written (`decode_encode`).
-/

namespace RollupWallet.Text

/-- Why a text is not hexadecimal. -/
inductive HexFault where
  | oddLength
  | invalidByte (byte : UInt8) (position : Nat)
deriving DecidableEq, Repr

namespace Hex

/-- The lower-case digit of a number below sixteen, as an ASCII byte. -/
def digit (n : Nat) : UInt8 := if n < 10 then UInt8.ofNat (48 + n) else UInt8.ofNat (87 + n)

/-- The value of a digit of either case. -/
def value? (byte : UInt8) : Option Nat :=
  if 48 ≤ byte && byte ≤ 57 then some (byte.toNat - 48)
  else if 97 ≤ byte && byte ≤ 102 then some (byte.toNat - 87)
  else if 65 ≤ byte && byte ≤ 70 then some (byte.toNat - 55)
  else none

/-- Two digits for each byte. -/
def encode (bytes : Bytes) : Bytes :=
  bytes.flatMap fun byte => [digit (byte.toNat / 16), digit (byte.toNat % 16)]

/-- The hexadecimal text of bytes as a string. -/
def text (bytes : Bytes) : String := ofAscii (encode bytes)

/-- Reads pairs of digits, the first of which stands at `position`. -/
def decodePairs (position : Nat) : Bytes → Except HexFault Bytes
  | high :: low :: rest =>
    match value? high, value? low with
    | none, _ => .error (.invalidByte high position)
    | some _, none => .error (.invalidByte low (position + 1))
    | some h, some l => (UInt8.ofNat (16 * h + l) :: ·) <$> decodePairs (position + 2) rest
  | _ => .ok []

/-- The bytes that a text writes. The length is judged before the digits. -/
def decode (text : Bytes) : Except HexFault Bytes :=
  if text.length % 2 = 1 then .error .oddLength else decodePairs 0 text

/-- A text without one `0x` in front of it. -/
def stripMark : Bytes → Bytes
  | 48 :: 120 :: rest => rest
  | text => text

/-- A text without any of the `0x` in front of it. -/
def stripMarks : Bytes → Bytes
  | 48 :: 120 :: rest => stripMarks rest
  | text => text

/-- A text without one `0x` or `0X` in front of it. -/
def stripAnyMark : Bytes → Bytes
  | 48 :: 120 :: rest => rest
  | 48 :: 88 :: rest => rest
  | text => text

theorem value?_digit : ∀ n < 16, value? (digit n) = some n := by decide

theorem decodePairs_encode (bytes : Bytes) (position : Nat) :
    decodePairs position (encode bytes) = .ok bytes := by
  induction bytes generalizing position with
  | nil => rfl
  | cons byte rest ih =>
    have hbyte := byte.toNat_lt
    have hhigh := value?_digit (byte.toNat / 16) (by omega)
    have hlow := value?_digit (byte.toNat % 16) (by omega)
    have hsum : UInt8.ofNat (16 * (byte.toNat / 16) + byte.toNat % 16) = byte := by
      rw [Nat.div_add_mod]
      exact UInt8.ofNat_toNat
    have hcons : encode (byte :: rest) =
        digit (byte.toNat / 16) :: digit (byte.toNat % 16) :: encode rest := by
      simp [encode]
    rw [hcons, decodePairs, hhigh, hlow]
    simp only [ih, hsum]
    rfl

@[simp] theorem length_encode (bytes : Bytes) : (encode bytes).length = 2 * bytes.length := by
  induction bytes with
  | nil => rfl
  | cons byte rest ih =>
    simp only [encode, List.flatMap_cons, List.length_append, List.length_cons,
      List.length_nil] at ih ⊢
    omega

theorem decode_encode (bytes : Bytes) : decode (encode bytes) = .ok bytes := by
  have h : ¬ (encode bytes).length % 2 = 1 := by rw [length_encode]; omega
  rw [decode, if_neg h, decodePairs_encode]

end Hex

end RollupWallet.Text
