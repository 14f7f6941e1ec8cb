import RollupWallet.Curve.Edwards
import RollupWallet.Error.Crypto
import RollupWallet.Hash.Blake2b
import RollupWallet.Hash.Mimc

/-!
# Signatures of layer 2

An account signs with a secret scalar `s` and publishes the point `A = s B`. A signature is a
compressed point `R` and a scalar `S`, and it is accepted when `8 S B = 8 (R + h A)` for the
challenge `h`, a digest of `R`, `A` and the message. Signing is deterministic: the scalar behind
`R` is a digest of the message and of a secret kept beside `s`.
-/

namespace RollupWallet.Eddsa

open Curve

/-- The residue modulo the order of the subgroup of the integer that bytes write. -/
def reduceScalar (bytes : Bytes) : Scalar := Fin.ofNat subgroupOrder (Bytes.toNat bytes)

/-- A signature: a compressed point and a scalar, most significant byte first. -/
structure Signature where
  r : Bytes32
  s : Bytes32
deriving DecidableEq

namespace Signature

/-- The 64 bytes of a signature. -/
def toBytes (sig : Signature) : Bytes := sig.r.bytes ++ sig.s.bytes

/-- The signature that 64 bytes write. -/
def ofBytes (bytes : Bytes) : Except InvalidInput Signature :=
  match FixedBytes.ofBytes? 32 (bytes.take 32), FixedBytes.ofBytes? 32 (bytes.drop 32) with
  | some r, some s => .ok ⟨r, s⟩
  | _, _ => .error ⟨"Sig", .wrongLength 64 bytes.length⟩

theorem length_toBytes (sig : Signature) : sig.toBytes.length = 64 := by
  simp [toBytes, sig.r.length_eq, sig.s.length_eq]

theorem ofBytes_toBytes (sig : Signature) : ofBytes sig.toBytes = .ok sig := by
  have htake : sig.toBytes.take 32 = sig.r.bytes := by
    rw [toBytes, List.take_left' sig.r.length_eq]
  have hdrop : sig.toBytes.drop 32 = sig.s.bytes := by
    rw [toBytes, List.drop_left' sig.r.length_eq]
  simp [ofBytes, htake, hdrop]

end Signature

/-- A public key: a point, on the curve for every key that is read or derived. -/
structure PublicKey where
  point : Point
deriving DecidableEq

namespace PublicKey

/-- The key with given coordinates. -/
def ofCoordinates (x y : Bytes32) : Except CryptoError PublicKey :=
  match Point.ofCoordinates? x y with
  | some point => .ok ⟨point⟩
  | none => .error .invalidPublicKey

/-- The key whose compressed form is given. -/
def ofCompressed (word : Bytes32) : Except CryptoError PublicKey :=
  match Point.decompress word with
  | .ok point => .ok ⟨point⟩
  | .error _ => .error .invalidPublicKey

/-- The first coordinate. -/
def x (key : PublicKey) : Bytes32 := key.point.x.toBytes32

/-- The second coordinate. -/
def y (key : PublicKey) : Bytes32 := key.point.y.toBytes32

/-- The compressed form. -/
def compressed (key : PublicKey) : Bytes32 := key.point.compress

end PublicKey

/-- The challenge of a signature with point `r` under the key `a`. -/
def challenge (r a : Point) (message : Bytes) : Scalar :=
  reduceScalar (Hash.mimc (r.x.toBytes32.bytes ++ r.y.toBytes32.bytes ++ a.x.toBytes32.bytes ++
    a.y.toBytes32.bytes ++ message)).bytes

/-- Checks a signature of a message. -/
def PublicKey.verify (key : PublicKey) (message : Bytes) (sig : Signature) :
    Except CryptoError Unit := do
  if !key.point.onCurve then throw .invalidPublicKey
  let r ← (Point.decompress sig.r).mapError fun _ => CryptoError.invalidSignature
  if subgroupOrder ≤ sig.s.toNat then throw .invalidSignature
  let h := challenge r key.point message
  let left := (Point.generator.mul sig.s.toNat).clearCofactor
  let right := (r.add (key.point.mul h.val)).clearCofactor
  if left = right then pure () else throw .verificationFailed

/-- A secret key: the scalar, the secret from which blinding scalars are drawn, and the public key
of the scalar. -/
structure SecretKey where
  scalar : Scalar
  blindingSecret : Bytes
  publicKey : PublicKey
deriving DecidableEq

namespace SecretKey

/-- The scalar in the first half of an expanded seed, least significant byte first. Its three low
bits are cleared, so that it is a multiple of the cofactor, the bit of value `2 ^ 254` is set, and
the bits of value `2 ^ 255`, `2 ^ 249` and `2 ^ 248` are cleared. -/
def clamp (half : Bytes) : Nat :=
  let value := Bytes.toNatLE half
  let cleared := 7 + Nat.pow 2 248 + Nat.pow 2 249 + Nat.pow 2 255
  (value &&& (Nat.pow 2 256 - 1 - cleared)) ||| Nat.pow 2 254

/-- The key of 32 seed bytes. -/
def ofSeedBytes (seed : Bytes) : SecretKey :=
  let expanded := (Hash.blake2b seed).bytes
  let scalar := Fin.ofNat subgroupOrder (clamp (expanded.take 32))
  ⟨scalar, expanded.drop 32, ⟨Point.generator.mul scalar.val⟩⟩

/-- The key of a seed, of which the first 32 bytes count; a shorter one is filled up by zeros. -/
def ofSeed (seed : String) : Except CryptoError SecretKey :=
  if seed = "" then .error (.keyDerivation .emptySeed)
  else .ok (ofSeedBytes (Bytes.padRight 32 ((Text.utf8 seed).take 32)))

/-- The blinding scalar of a message. -/
def blinding (key : SecretKey) (message : Bytes) : Scalar :=
  reduceScalar ((Hash.blake2b (key.blindingSecret ++ message)).bytes.take 32)

/-- Signs a message. -/
def sign (key : SecretKey) (message : Bytes) : Signature :=
  let blinding := key.blinding message
  let r := Point.generator.mul blinding.val
  let h := challenge r key.publicKey.point message
  ⟨r.compress, FixedBytes.ofNat 32 (h * key.scalar + blinding).val⟩

end SecretKey

end RollupWallet.Eddsa
