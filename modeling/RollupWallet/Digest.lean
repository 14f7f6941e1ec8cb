import RollupWallet.Error.InvalidInput

/-!
# Digests as text

Digests and coordinates are written as 64 digits without a mark. Reading takes a mark as well, and
the empty text stands for zero.
-/

namespace RollupWallet

/-- The digits of a word. -/
def FixedBytes.hex {n : Nat} (word : FixedBytes n) : String := Text.Hex.text word.bytes

/-- The 32 bytes that a text writes. -/
def bytes32OfHex (text : String) : Except InvalidInput Bytes32 :=
  match Text.Hex.stripMark (Text.utf8 text) with
  | [] => .ok .zero
  | digits =>
    match Text.Hex.decode digits with
    | .error fault => .error ⟨"hash", .badHex fault⟩
    | .ok bytes =>
      match FixedBytes.ofBytes? 32 bytes with
      | some word => .ok word
      | none => .error ⟨"hash", .wrongLength 32 bytes.length⟩

end RollupWallet
