import RollupWallet.Error.InvalidInput
import RollupWallet.Json.Parser

/-!
# Values in JSON

A codec says how a value is written as a tree and read from one. Reading names the first thing that
is wrong in the order of the text, as far as it is one that a message names; all else is
`Fault.malformed`.
-/

namespace RollupWallet.Json

/-- Why a text is refused. -/
inductive Fault where
  /-- The text is no JSON, or a value is of another form than expected. -/
  | malformed
  | missingMember (name : String)
  | duplicateMember (name : String)
  /-- The text of a value that should be an amount. -/
  | notAmount (text : String)
  | unknownSide (tag : Nat)
  | invalidInput (error : InvalidInput)
deriving DecidableEq

namespace Fault

/-- The wording of a fault, for those that are described. -/
def message? : Fault → Option String
  | malformed => none
  | missingMember name => some s!"missing field `{name}`"
  | duplicateMember name => some s!"duplicate field `{name}`"
  | notAmount text => some s!"expected a non-negative decimal integer, got {text}"
  | unknownSide tag => some s!"unknown offer type {tag}"
  | invalidInput error => some error.message

end Fault

/-- How values of a type are written and read, and what this expects of a text. -/
structure Codec (α : Type) where
  read : Json → Except Fault α
  write : α → Json
  shape : Shape := .any

namespace Codec

variable {α β : Type}

/-- The value that a whole text writes; only blanks may follow it. -/
def ofText (codec : Codec α) (text : Bytes) : Except Fault α := do
  let (tree, rest) := parse codec.shape text
  let value ← codec.read tree
  match rest with
  | some rest => if rest.all isBlank then pure value else throw .malformed
  | none => throw .malformed

/-- The text of a value. -/
def toText (codec : Codec α) (value : α) : Bytes := (codec.write value).text

/-- The codec of a type whose values are those of another one. -/
def imap (codec : Codec α) (decode : α → β) (encode : β → α) : Codec β where
  read tree := decode <$> codec.read tree
  write value := codec.write (encode value)
  shape := codec.shape

/-- The codec of a type whose values are some of those of another one. -/
def refine (codec : Codec α) (decode : α → Except Fault β) (encode : β → α) : Codec β where
  read tree := codec.read tree >>= decode
  write value := codec.write (encode value)
  shape := codec.shape

/-- A value or `null`. -/
def optional (codec : Codec α) : Codec (Option α) where
  read
    | .null => .ok none
    | tree => some <$> codec.read tree
  write
    | none => .null
    | some value => codec.write value
  shape := codec.shape

/-- Values in an array. -/
def list (codec : Codec α) : Codec (List α) where
  read
    | .array _ items => items.mapM codec.read
    | _ => .error .malformed
  write values := ofItems (values.map codec.write)
  shape := .list codec.shape

/-- A string. -/
def string : Codec String where
  read
    | .string raw =>
      match Literal.string? raw with
      | some s => .ok s
      | none => .error .malformed
    | _ => .error .malformed
  write s := .string (Literal.encode (Text.utf8 s))

/-- An integer, written without point and exponent. Zero has no sign. -/
def integer : Codec Int where
  read
    | .number text =>
      if text = [45, 48] then .error .malformed
      else
        match Text.Decimal.integer? text with
        | some n => .ok n
        | none => .error .malformed
    | _ => .error .malformed
  write n := .number (Text.Decimal.integer n)

/-- An integer of 64 bits with sign. -/
def int64 : Codec Int64 :=
  integer.refine
    (fun n =>
      if Int64.minValue.toInt ≤ n ∧ n ≤ Int64.maxValue.toInt then .ok (Int64.ofInt n)
      else .error .malformed)
    Int64.toInt

/-- A natural number below a bound. -/
def below (bound : Nat) : Codec Nat :=
  integer.refine
    (fun n => if 0 ≤ n ∧ n < bound then .ok n.toNat else .error .malformed)
    Int.ofNat

/-- A byte. -/
def byte : Codec UInt8 := (below 256).imap UInt8.ofNat UInt8.toNat

/-- An amount: a number of any size, or its digits as a string. The text counts, so that digits
written as escapes are refused. -/
def amount : Codec Nat where
  read tree :=
    if !tree.isSound then .error .malformed
    else
      match Text.ofUtf8? tree.text with
      | none => .error .malformed
      | some text =>
        let digits :=
          match tree with
          | .string raw => raw
          | tree => tree.text
        match Text.Decimal.natural? digits with
        | some n => .ok n
        | none => .error (.notAmount text)
  write n := .number (Text.Decimal.natural n)

/-- The bytes that items of an array write. -/
def bytesOfItems (items : List Json) : Except Fault Bytes := items.mapM byte.read

/-- Bytes in hexadecimal text after `0x`. Other marks, none, and an array of bytes are read as
well. -/
def bytes : Codec Bytes where
  read
    | .array _ items => bytesOfItems items
    | tree => do
      let text ← string.read tree
      match Text.Hex.decode (Text.Hex.stripAnyMark (Text.utf8 text)) with
      | .ok bytes => pure bytes
      | .error _ => throw .malformed
  write bytes := .string ([48, 120] ++ Text.Hex.encode bytes)

/-- A word of `n` bytes, in hexadecimal text after `0x`. Other marks, none, and an array of bytes
are read as well; the array may end with a gap. -/
def word (n : Nat) : Codec (FixedBytes n) where
  read tree := do
    let bytes ←
      match tree with
      | .array _ items =>
        match items.drop n with
        | [] => bytesOfItems items
        | [.gap] => bytesOfItems (items.take n)
        | _ => throw .malformed
      | tree => bytes.read tree
    match FixedBytes.ofBytes? n bytes with
    | some word => pure word
    | none => throw .malformed
  write word := bytes.write word.bytes
  shape := .word n

/-- A value whose check names a broken rule. -/
def checked (codec : Codec α) (decode : α → Except InvalidInput β) (encode : β → α) : Codec β :=
  codec.refine (fun value => (decode value).mapError Fault.invalidInput) encode

end Codec

end RollupWallet.Json
