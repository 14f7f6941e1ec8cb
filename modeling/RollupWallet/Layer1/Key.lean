import RollupWallet.Curve.Secp256k1
import RollupWallet.Error.Crypto
import RollupWallet.Hash.Keccak
import RollupWallet.Hash.Sha256
import RollupWallet.Text.Decimal

/-!
# Layer-1 keys

A layer-1 key signs personal messages: texts that are hashed behind a fixed opening and their
length, so that no signature of a text is one of a layer-1 transaction. A signature is 65 bytes,
`r`, `s` and a byte that says which of the candidates for the signer's point is meant. It is
deterministic and `s` is at most half the order; `recover` finds the signer's address and refuses
the twin signature with the larger `s`.

The seed of the layer-2 key of an account is read off its signature of one fixed text.
-/

namespace RollupWallet.Layer1

open Curve.Secp256k1

/-- What is hashed of a personal message. -/
def personalPreimage (message : Bytes) : Bytes :=
  [0x19] ++ Text.utf8 "Ethereum Signed Message:\n" ++ Text.Decimal.natural message.length ++ message

/-- The digest of a personal message. -/
def personalDigest (message : Bytes) : Bytes32 := Hash.keccak256 (personalPreimage message)

/-- The address of a point: the end of the digest of its coordinates. -/
def addressOf : Point → Address
  | .zero => .zero
  | .affine x y =>
    let digest := Hash.keccak256 (Bytes.ofNat 32 x.val ++ Bytes.ofNat 32 y.val)
    ⟨digest.bytes.drop 12, by simp [digest.length_eq]⟩

/-- A secret key and its address. -/
structure Key where
  secret : Scalar
  address : Address
deriving DecidableEq

namespace Key

/-- The key of a secret number, which lies between zero and the order. -/
def ofSecret? (secret : Nat) : Option Key :=
  if h : 0 < secret ∧ secret < order then
    some ⟨⟨secret, h.2⟩, addressOf (Point.generator.mul secret)⟩
  else none

/-- The key in hexadecimal text, with or without `0x`. From 24 to 32 bytes are read as a number. -/
def ofHex (text : String) : Except CryptoError Key :=
  match Text.Hex.decode (Text.Hex.stripMark (Text.utf8 text)) with
  | .error fault => .error (.keyDerivation (.badHex fault))
  | .ok bytes =>
    if 24 ≤ bytes.length ∧ bytes.length ≤ 32 then
      match ofSecret? (Bytes.toNat bytes) with
      | some key => .ok key
      | none => .error (.keyDerivation .badSecret)
    else .error (.keyDerivation .badSecret)

end Key

/-! ### Signing -/

/-- The state of the generator of one-time secrets. -/
structure NonceState where
  key : Bytes32
  value : Bytes32

namespace NonceState

/-- Draws a new value under the same key. -/
def next (state : NonceState) : NonceState :=
  { state with value := Hash.hmacSha256 state.key.bytes state.value.bytes }

/-- Mixes bytes into the key, after a mark that tells the stages apart. -/
def mix (state : NonceState) (mark : UInt8) (bytes : Bytes) : NonceState :=
  next { state with key := Hash.hmacSha256 state.key.bytes (state.value.bytes ++ [mark] ++ bytes) }

/-- The state seeded by a secret and a digest. -/
def seed (secret digest : Bytes32) : NonceState :=
  let start : NonceState := ⟨.zero, ⟨List.replicate 32 1, by simp⟩⟩
  (start.mix 0 (secret.bytes ++ digest.bytes)).mix 1 (secret.bytes ++ digest.bytes)

/-- The first value drawn that lies between zero and the order, if there is one within so many
tries. -/
def draw? : (tries : Nat) → NonceState → Option Nat
  | 0, _ => none
  | tries + 1, state =>
    let state := state.next
    let value := state.value.toNat
    if 0 < value ∧ value < order then some value else draw? tries (state.mix 0 [])

end NonceState

/-- How many values are drawn for a signature. Drawing has no bound of its own, and this one makes it
a recursion on the tries that are left. The order is so close to `2 ^ 256` that less than one value
in `2 ^ 127` is refused: even a second draw is not to be expected, and signing does not fail for want
of a sixty-fifth. -/
def maxDraws : Nat := 64

/-- The distance between the last byte of a signature and the number of the candidate. -/
def recoveryOffset : Nat := 27

/-- A signature with the one-time secret `k`. The smaller of `s` and its negation is taken, and
with the negation the other candidate. -/
def signWith? (secret : Scalar) (digest : Bytes32) (k : Nat) : Option (FixedBytes 65) :=
  match Point.generator.mul k with
  | .zero => none
  | .affine x y =>
    let r : Scalar := Fin.ofNat order x.val
    let z : Scalar := Fin.ofNat order digest.toNat
    let s := Arith.inv (Fin.ofNat order k) * (z + r * secret)
    if r = 0 ∨ s = 0 then none
    else
      let high : Bool := order / 2 < s.val
      let low := if high then -s else s
      let odd : Bool := y.val % 2 = 1
      let candidate := (if odd != high then 1 else 0) + if order ≤ x.val then 2 else 0
      some ⟨Bytes.ofNat 32 r.val ++ Bytes.ofNat 32 low.val ++
        [UInt8.ofNat (recoveryOffset + candidate)], by simp⟩

/-- Signs a personal message. -/
def Key.sign (key : Key) (message : Bytes) : Except CryptoError (FixedBytes 65) :=
  let digest := personalDigest message
  let state := NonceState.seed (FixedBytes.ofNat 32 key.secret.val) digest
  ((state.draw? maxDraws).bind (signWith? key.secret digest)).elim (.error .signing) .ok

/-! ### Recovery -/

/-- The signer's point: the one under which `r` and `s` sign the digest, given which candidate `r`
stands for. -/
def recoverPoint? (digest : Bytes32) (r s : Scalar) (candidate : Nat) : Option Point := do
  let x := r.val + if 2 ≤ candidate then order else 0
  let commitment ← Point.ofX? x (candidate % 2 = 1)
  let z : Scalar := Fin.ofNat order digest.toNat
  let rInv := Arith.inv r
  let point := (Point.generator.mul (-(rInv * z)).val).add (commitment.mul (rInv * s).val)
  if point = .zero then none else some point

/-- The address that signed a personal message. -/
def recover (message signature : Bytes) : Except CryptoError Address := do
  if signature.length ≠ 65 then throw .invalidSignature
  let r := Bytes.toNat (signature.take 32)
  let s := Bytes.toNat ((signature.drop 32).take 32)
  let last := Bytes.toNat (signature.drop 64)
  if r = 0 ∨ order ≤ r ∨ s = 0 ∨ order ≤ s then throw .invalidSignature
  if last < recoveryOffset ∨ recoveryOffset + 3 < last then throw .invalidSignature
  if order / 2 < s then throw .verificationFailed
  match recoverPoint? (personalDigest message) (Fin.ofNat order r) (Fin.ofNat order s)
      (last - recoveryOffset) with
  | some point => pure (addressOf point)
  | none => throw .verificationFailed

/-! ### Seeds of layer-2 keys -/

/-- The text whose signature holds the seed of the layer-2 key on a chain. -/
def seedMessage (chainId : Nat) : String :=
  "Access zkbnb account.\n\nOnly sign this message for a trusted client!\nChain ID: " ++
    s!"{chainId}."

/-- The seed that a signature holds: the first 64 digits of its hexadecimal text. -/
def seedOfSignature (signature : Bytes) : String :=
  Text.ofAscii ((Text.Hex.encode signature).take 64)

/-- The seed of the layer-2 key on a chain. -/
def Key.seed (key : Key) (chainId : Nat) : Except CryptoError String := do
  let sig ← key.sign (Text.utf8 (seedMessage chainId))
  pure (seedOfSignature sig.bytes)

end RollupWallet.Layer1
