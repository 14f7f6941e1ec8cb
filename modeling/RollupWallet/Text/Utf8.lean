import RollupWallet.Bytes.Basic

/-!
# Strings as bytes

A string is hashed, measured and sent as its UTF-8 bytes. Reading goes back from bytes to the one
string that has them (`ofUtf8?_utf8`), and where bytes are no UTF-8 text `Utf8Fault` says where
they stop being one.
-/

namespace RollupWallet.Text

/-- The UTF-8 bytes of a string. -/
def utf8 (s : String) : Bytes := s.toByteArray.data.toList

/-- The string whose UTF-8 bytes are given. -/
def ofUtf8? (bytes : Bytes) : Option String := String.fromUTF8? ⟨bytes.toArray⟩

theorem ofUtf8?_utf8 (s : String) : ofUtf8? (utf8 s) = some s := by
  have h : (⟨(utf8 s).toArray⟩ : ByteArray) = s.toByteArray := by simp [utf8]
  rw [ofUtf8?, h, String.fromUTF8?, dif_pos s.isValidUTF8]
  rfl

/-- The string of characters whose codes are the given bytes. -/
def ofAscii (bytes : Bytes) : String := String.ofList (bytes.map fun byte => Char.ofNat byte.toNat)

/-- A flaw in bytes that should be UTF-8 text: how many bytes before it are sound, and how many
bytes the flaw takes, or none if the text ends inside a character. -/
structure Utf8Fault where
  soundBytes : Nat
  length : Option Nat
deriving DecidableEq, Repr

namespace Utf8Fault

/-- The wording of a flaw. -/
def message (fault : Utf8Fault) : String :=
  match fault.length with
  | some length => s!"invalid utf-8 sequence of {length} bytes from index {fault.soundBytes}"
  | none => s!"incomplete utf-8 byte sequence from index {fault.soundBytes}"

end Utf8Fault

/-- Whether a byte can only continue a character. -/
def isContinuation (byte : UInt8) : Bool := 0x80 ≤ byte && byte ≤ 0xBF

/-- Whether the second byte of a three-byte character may follow its first: this leaves out
overlong forms and surrogates. -/
def follows3 (first second : UInt8) : Bool :=
  if first == 0xE0 then 0xA0 ≤ second && second ≤ 0xBF
  else if first == 0xED then 0x80 ≤ second && second ≤ 0x9F
  else isContinuation second

/-- Whether the second byte of a four-byte character may follow its first: this leaves out overlong
forms and codes past the last plane. -/
def follows4 (first second : UInt8) : Bool :=
  if first == 0xF0 then 0x90 ≤ second && second ≤ 0xBF
  else if first == 0xF4 then 0x80 ≤ second && second ≤ 0x8F
  else isContinuation second

/-- The first flaw of bytes that start at `index` of a text. -/
def utf8Fault? (index : Nat) : Bytes → Option Utf8Fault
  | [] => none
  | a :: rest =>
    if a < 0x80 then utf8Fault? (index + 1) rest
    else if 0xC2 ≤ a && a ≤ 0xDF then
      match rest with
      | [] => some ⟨index, none⟩
      | b :: rest =>
        if isContinuation b then utf8Fault? (index + 2) rest else some ⟨index, some 1⟩
    else if 0xE0 ≤ a && a ≤ 0xEF then
      match rest with
      | [] => some ⟨index, none⟩
      | b :: rest =>
        if follows3 a b then
          match rest with
          | [] => some ⟨index, none⟩
          | c :: rest =>
            if isContinuation c then utf8Fault? (index + 3) rest else some ⟨index, some 2⟩
        else some ⟨index, some 1⟩
    else if 0xF0 ≤ a && a ≤ 0xF4 then
      match rest with
      | [] => some ⟨index, none⟩
      | b :: rest =>
        if follows4 a b then
          match rest with
          | [] => some ⟨index, none⟩
          | c :: rest =>
            if isContinuation c then
              match rest with
              | [] => some ⟨index, none⟩
              | d :: rest =>
                if isContinuation d then utf8Fault? (index + 4) rest else some ⟨index, some 3⟩
            else some ⟨index, some 2⟩
        else some ⟨index, some 1⟩
    else some ⟨index, some 1⟩

/-- The sound parts of bytes, with the replacement character for each flaw. At most `fuel` flaws
are replaced. -/
def repair : (fuel : Nat) → Bytes → Bytes
  | 0, bytes => bytes
  | fuel + 1, bytes =>
    match utf8Fault? 0 bytes with
    | none => bytes
    | some ⟨sound, length⟩ =>
      bytes.take sound ++ [0xEF, 0xBF, 0xBD] ++
        repair fuel (bytes.drop (sound + length.getD bytes.length))

/-- The string that bytes write, with the replacement character for each flaw. -/
def ofUtf8Lossy (bytes : Bytes) : String := (ofUtf8? (repair bytes.length bytes)).getD ""

end RollupWallet.Text
