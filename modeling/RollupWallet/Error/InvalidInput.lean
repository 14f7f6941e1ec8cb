import RollupWallet.Text.Hex
import RollupWallet.Text.Quoted

/-!
# Invalid input

A value that breaks a rule is reported with the name of its field and the rule it breaks. The
wording is in one place, `Reason.message`.
-/

namespace RollupWallet

namespace Text.HexFault

/-- The wording of a flaw in hexadecimal text. A byte that is no digit is shown as the character
with its code. -/
def message : HexFault → String
  | .oddLength => "Odd number of digits"
  | .invalidByte byte position =>
    s!"Invalid character {Quoted.char (Char.ofNat byte.toNat)} at position {position}"

end Text.HexFault

/-- The rule that a value breaks. -/
inductive Reason where
  /-- The text is not hexadecimal. -/
  | badHex (fault : Text.HexFault)
  /-- The text of a public key is not hexadecimal. -/
  | badKeyHex (fault : Text.HexFault)
  /-- The text of a public key does not write 32 bytes. -/
  | badKeyLength
  | wrongLength (expected actual : Nat)
  | unknownKind (tag : Nat)
  | malformedName (name : String)
  | notPackable (amount : Nat)
  | tooWideToUnpack
  | packedNotCanonical
  | negative (value : Int)
  | tooWide (value : Int) (bits : Nat)
  /-- A rate that is hashed is out of range. -/
  | rateOutOfRange (rate : Int) (base : Nat)
  /-- One of several rates that are added up is out of range. -/
  | summandOutOfRange (rate : Int) (base : Nat)
  | rateSum (sum : Int) (base : Nat)
  | negativeRate
  | notCanonical
  | expired (expiry now : Int)
  | tooManyBytes (count max : Nat)
  | characterCount (count min max : Nat)
  | callDataMismatch
  | metaDataMismatch
  | sameAccount (account : Int)
  | zeroAddress
  | listedAfterExpiry
  | exceedsAssetAmount
  | notBuyOffer
  | notSellOffer
  | differsFromBuyOffer
  | unsignedOffer
  | unsignedTransaction
  | receiverUnresolved
  | collectionUnresolved
  | noSigner
  | signerKeyUnknown
  | notDecimal (text : String)
  | notUtf8 (fault : Text.Utf8Fault)
deriving DecidableEq

namespace Reason

/-- The wording of a rule. -/
def message : Reason → String
  | badHex fault => s!"bad hex: {fault.message}"
  | badKeyHex fault => fault.message
  | badKeyLength => "expected 32 bytes"
  | wrongLength expected actual => s!"expected {expected} bytes, got {actual}"
  | unknownKind tag => s!"unknown tx type {tag}"
  | malformedName name => s!"expected `label.base`, got {Text.Quoted.string name}"
  | notPackable amount => s!"{amount} exceeds the packed amount maximum"
  | tooWideToUnpack => "wider than 40 bits"
  | packedNotCanonical => "packed amount exceeds the field modulus"
  | negative value => s!"{value} is negative"
  | tooWide value bits => s!"{value} does not fit in {bits} bits"
  | rateOutOfRange rate base => s!"rate {rate} is outside [0, {base}]"
  | summandOutOfRange rate base => s!"rate {rate} outside [0, {base}]"
  | rateSum sum base => s!"rates sum to {sum}, exceeding {base}"
  | negativeRate => "negative rate"
  | notCanonical => "not below the field modulus"
  | expired expiry now => s!"{expiry} is not after the current time {now}"
  | tooManyBytes count max => s!"{count} bytes exceeds the maximum of {max}"
  | characterCount count min max => s!"{count} characters is outside [{min}, {max}]"
  | callDataMismatch => "does not match CallData"
  | metaDataMismatch => "does not match MetaData"
  | sameAccount account => s!"sender and receiver are both account {account}"
  | zeroAddress => "zero address"
  | listedAfterExpiry => "later than ExpiredAt"
  | exceedsAssetAmount => "exceeds AssetAmount"
  | notBuyOffer => "not a buy offer"
  | notSellOffer => "not a sell offer"
  | differsFromBuyOffer => "differs from the buy offer"
  | unsignedOffer => "offer is unsigned"
  | unsignedTransaction => "transaction is unsigned"
  | receiverUnresolved => "receiving account not resolved"
  | collectionUnresolved => "collection id not resolved"
  | noSigner => "no signer configured"
  | signerKeyUnknown => "the signing key must be known to submit"
  | notDecimal text => s!"not a decimal: {text}"
  | notUtf8 fault => fault.message

end Reason

/-- A field whose value breaks a rule. -/
structure InvalidInput where
  field : String
  reason : Reason
deriving DecidableEq

namespace InvalidInput

/-- The wording of the error. -/
def message (error : InvalidInput) : String :=
  s!"invalid input for {error.field}: {error.reason.message}"

end InvalidInput

end RollupWallet
