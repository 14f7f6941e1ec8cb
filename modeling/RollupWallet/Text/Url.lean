import RollupWallet.Text.Url.Host

/-!
# Addresses of services

Whether a text is the address of a service: a scheme, a colon and what the scheme asks for. The
schemes of the web ask for a server, which is a host, perhaps with a user before it and a number
after it. Files may be on a host, and other schemes name a server only after two slashes. Blanks and
control characters at both ends do not count, and neither do tabs and line ends anywhere.
-/

namespace RollupWallet.Text.Url

/-- Whether a byte is an ASCII letter. -/
def isLetter (byte : UInt8) : Bool := (65 ≤ byte && byte ≤ 90) || (97 ≤ byte && byte ≤ 122)

/-- A byte in lower case. -/
def lower (byte : UInt8) : UInt8 := if 65 ≤ byte && byte ≤ 90 then byte + 32 else byte

/-- A text without what does not count. -/
def clean (text : Bytes) : Bytes :=
  let front := text.dropWhile (· ≤ 32)
  (front.reverse.dropWhile (· ≤ 32)).reverse.filter fun byte => byte ≠ 9 ∧ byte ≠ 10 ∧ byte ≠ 13

/-- The scheme in lower case and what follows the colon. -/
def scheme? (text : Bytes) : Option (Bytes × Bytes) :=
  let isPart (byte : UInt8) : Bool :=
    isLetter byte || Decimal.isDigit byte || byte == 43 || byte == 45 || byte == 46
  let name := text.takeWhile isPart
  match name, text.dropWhile isPart with
  | first :: _, 58 :: rest => if isLetter first then some (name.map lower, rest) else none
  | _, _ => none

/-- Whether a byte is a slash of either kind. -/
def isSlash (byte : UInt8) : Bool := byte = 47 || byte = 92

/-- Whether a byte ends the part of an address that names a server. On the web a backslash does. -/
def isEnd (isWeb : Bool) (byte : UInt8) : Bool :=
  byte = 47 || byte = 63 || byte = 35 || (isWeb && byte = 92)

/-- What stands before and after the last occurrence of a byte. -/
def splitLast? (separator : UInt8) (text : Bytes) : Option (Bytes × Bytes) :=
  if text.contains separator then
    let back := text.reverse.takeWhile (· ≠ separator)
    some (text.take (text.length - (back.length + 1)), back.reverse)
  else none

/-- The host at the front of a text and what follows it. Between brackets, colons belong to it. -/
def splitHost (isWeb : Bool) : (isInside : Bool) → Bytes → Bytes × Bytes
  | _, [] => ([], [])
  | isInside, byte :: rest =>
    if isEnd isWeb byte || (byte = 58 && !isInside) then ([], byte :: rest)
    else
      let found := splitHost isWeb (byte = 91 || (isInside && byte ≠ 93)) rest
      (byte :: found.1, found.2)

/-- Whether a text starts with a number that may stand after a host. The number may be missing. -/
def startsWithNumber (text : Bytes) : Bool :=
  Decimal.value (text.takeWhile Decimal.isDigit) < 65536 &&
    (text.dropWhile Decimal.isDigit).head?.all (isEnd true)

/-- Whether a text starts with a host and perhaps the number after it. Outside the web the host may
be empty if nothing depends on it. -/
def startsWithPlace (isWeb hasUser : Bool) (text : Bytes) : Bool :=
  match splitHost isWeb false text with
  | ([], 58 :: _) => false
  | (host, rest) =>
    (if isWeb then isWebHost host else isOtherHost host && (host ≠ [] || !hasUser)) &&
      match rest with
      | 58 :: rest => startsWithNumber rest
      | _ => true

/-- Whether a text starts with a server: perhaps a user, whom the last at sign ends, and a place. -/
def startsWithServer (isWeb : Bool) (text : Bytes) : Bool :=
  let server := text.takeWhile fun byte => !isEnd isWeb byte
  match splitLast? 64 server with
  | none => startsWithPlace isWeb false text
  | some (user, _) =>
    let rest := text.drop (user.length + 1)
    !(user = [] && rest.head?.any (isEnd isWeb)) &&
      startsWithPlace isWeb (user ≠ [] && user ≠ [58]) rest

/-- Whether a text names a drive in place of a host. -/
def isDrive : Bytes → Bool
  | [letter, mark] => isLetter letter && (mark = 58 || mark = 124)
  | _ => false

/-- Whether a text may follow the scheme of files. -/
def isFilePlace : Bytes → Bool
  | a :: b :: rest =>
    let host := rest.takeWhile fun byte => !isEnd true byte
    !(isSlash a && isSlash b) || host = [] || isDrive host || isWebHost host
  | _ => true

/-- Whether a text may follow a scheme that is none of the web. -/
def isOtherPlace : Bytes → Bool
  | 47 :: 47 :: rest => startsWithServer false rest
  | _ => true

/-- The schemes of the web, all of which name a server. -/
def webSchemes : List String := ["http", "https", "ws", "wss", "ftp"]

/-- Whether a text is the address of a service. -/
def isValid (text : String) : Bool :=
  match scheme? (clean (utf8 text)) with
  | none => false
  | some (scheme, rest) =>
    if webSchemes.any fun name => utf8 name = scheme then
      startsWithServer true (rest.dropWhile isSlash)
    else if scheme = utf8 "file" then isFilePlace rest
    else isOtherPlace rest

end RollupWallet.Text.Url
