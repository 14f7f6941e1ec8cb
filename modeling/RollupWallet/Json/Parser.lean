import RollupWallet.Json.Basic
import RollupWallet.Json.Refused
import RollupWallet.Json.Shape

/-!
# Reading JSON texts

Reading a text gives a tree and the rest after it. A text that is no JSON gives a tree as well, one
that ends in a `fault` where the text breaks, and then there is no rest. Two flaws can be read past,
and the tree shows both as a `gap`: a comma before the end of an array, and what follows the last
byte of a word in place of another byte.
-/

namespace RollupWallet.Json

/-- Whether a byte is a blank between tokens. -/
def isBlank (byte : UInt8) : Bool := byte == 32 || byte == 9 || byte == 10 || byte == 13

/-- A text without the blanks at its front. -/
def skipBlanks (text : Bytes) : Bytes := text.dropWhile isBlank

/-- The token at the front of a text that is neither array nor object: a word, a string or a
number. -/
def scalar (text : Bytes) : Json × Option Bytes :=
  match text with
  | 110 :: 117 :: 108 :: 108 :: rest => (null, some rest)
  | 116 :: 114 :: 117 :: 101 :: rest => (bool true, some rest)
  | 102 :: 97 :: 108 :: 115 :: 101 :: rest => (bool false, some rest)
  | 34 :: rest =>
    match Literal.split? rest with
    | some (raw, rest) => (string raw, some rest)
    | none => (fault, none)
  | text =>
    match number? text with
    | some (token, rest) => (number token, some rest)
    | none => (fault, none)

/-- What stands in front of the rest of a text. -/
def before (text : Bytes) : Option Bytes → Bytes
  | some rest => text.take (text.length - rest.length)
  | none => text

mutual

/-- The value at the front of a text. -/
def value : (fuel : Nat) → Shape → Bytes → Json × Option Bytes
  | 0, _, _ => (fault, none)
  | fuel + 1, shape, text =>
    match skipBlanks text with
    | 91 :: rest =>
      match skipBlanks rest with
      | 93 :: rest' => (array (before (91 :: rest) (some rest')) [], some rest')
      | _ =>
        let (found, after) := items fuel shape rest
        (array (before (91 :: rest) after) found, after)
    | 123 :: rest =>
      match skipBlanks rest with
      | 125 :: rest' => (object (before (123 :: rest) (some rest')) [], some rest')
      | _ =>
        let (found, after) := members fuel shape rest
        (object (before (123 :: rest) after) found, after)
    | text => scalar text

/-- The items of an array up to its end. -/
def items : (fuel : Nat) → Shape → Bytes → List Json × Option Bytes
  | 0, _, _ => ([fault], none)
  | fuel + 1, shape, text =>
    let (item, after) := value fuel shape.item text
    match after with
    | none => ([item], none)
    | some rest =>
      match skipBlanks rest with
      | 44 :: rest =>
        match skipBlanks rest with
        | 93 :: rest => ([item, gap], some rest)
        | next =>
          if shape.afterItem.isFull then
            match (afterRefused? next).map skipBlanks with
            | some (93 :: rest) => ([item, gap], some rest)
            | _ => ([item, fault], none)
          else
            let (others, after) := items fuel shape.afterItem next
            (item :: others, after)
      | 93 :: rest => ([item], some rest)
      | _ => ([item, fault], none)

/-- The members of an object up to its end. -/
def members : (fuel : Nat) → Shape → Bytes → List (Bytes × Json) × Option Bytes
  | 0, _, _ => ([([], fault)], none)
  | fuel + 1, shape, text =>
    match skipBlanks text with
    | 34 :: rest =>
      match Literal.split? rest with
      | none => ([([], fault)], none)
      | some (key, rest) =>
        match skipBlanks rest with
        | 58 :: rest =>
          let (found, after) := value fuel (shape.member (Literal.string? key)) rest
          match after with
          | none => ([(key, found)], none)
          | some rest =>
            match skipBlanks rest with
            | 44 :: rest =>
              let (others, after) := members fuel shape rest
              ((key, found) :: others, after)
            | 125 :: rest => ([(key, found)], some rest)
            | _ => ([(key, found), ([], fault)], none)
        | _ => ([(key, fault)], none)
    | _ => ([([], fault)], none)

end

/-- A text as a tree, given what is expected of it, and the rest after it if the tree does not break
off. -/
def parse (shape : Shape) (text : Bytes) : Json × Option Bytes :=
  value (2 * text.length + 2) shape text

/-- The tree of a text that is JSON throughout, with nothing but blanks after it. -/
def ofText? (text : Bytes) : Option Json :=
  match parse .any text with
  | (tree, some rest) => if tree.isSound && rest.all isBlank then some tree else none
  | (_, none) => none

end RollupWallet.Json
