import RollupWallet.Error.InvalidInput

/-!
# Errors of keys and signatures
-/

namespace RollupWallet

/-- Why no key could be derived. -/
inductive KeyFault where
  | emptySeed
  | badHex (fault : Text.HexFault)
  /-- The bytes are no secret key: too few, too many, zero or not below the order. -/
  | badSecret
deriving DecidableEq

namespace KeyFault

/-- The wording of the cause. -/
def message : KeyFault → String
  | emptySeed => "empty seed"
  | badHex fault => s!"bad private key hex: {fault.message}"
  | badSecret => "bad private key: signature error"

end KeyFault

/-- The ways in which a key or a signature fails. -/
inductive CryptoError where
  /-- The bytes do not write a signature. -/
  | invalidSignature
  /-- The bytes do not write a field element. -/
  | invalidField
  /-- The key is not a point of the curve. -/
  | invalidPublicKey
  | keyDerivation (cause : KeyFault)
  /-- No signature exists for this key and message. -/
  | signing
  | verificationFailed
deriving DecidableEq

namespace CryptoError

/-- The wording of the error. -/
def message : CryptoError → String
  | invalidSignature => "invalid signature encoding"
  | invalidField => "non-canonical field element"
  | invalidPublicKey => "public key is not on the curve"
  | keyDerivation cause => s!"error deriving key: {cause.message}"
  | signing => "error signing: signature error"
  | verificationFailed => "signature verification failed"

end CryptoError

end RollupWallet
