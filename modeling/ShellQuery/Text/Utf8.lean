/-!
# Bytes of texts

A text as bytes in UTF-8, and back.  Bytes that stand for no character are read
piece by piece: the longest beginning of a character at a place is one piece.
`decodeUtf8?` refuses a text with such a piece, and `decodeLossy` puts the
replacement character in its place.
-/

namespace ShellQuery.Text

/-- The bytes of a text. -/
def utf8Bytes (text : List Char) : List UInt8 := text.flatMap String.utf8EncodeChar

/-- What has been read of a character that is not complete. -/
structure Utf8Head where
  /-- How many bytes are missing. -/
  missing : Nat
  /-- The bits so far. -/
  code : Nat
  /-- The least next byte. -/
  low : Nat
  /-- The greatest next byte. -/
  high : Nat

/-- What the first byte of a character says. -/
inductive Utf8Start where
  /-- It is the whole character. -/
  | complete (c : Char)
  /-- More bytes follow. -/
  | open (head : Utf8Head)
  /-- No character starts with it. -/
  | invalid

/-- Reads a first byte. -/
def startUtf8 (b : Nat) : Utf8Start :=
  if b < 0x80 then .complete (Char.ofNat b)
  else if b < 0xC2 then .invalid
  else if b < 0xE0 then .open ⟨1, b - 0xC0, 0x80, 0xBF⟩
  else if b = 0xE0 then .open ⟨2, 0, 0xA0, 0xBF⟩
  else if b = 0xED then .open ⟨2, 0xD, 0x80, 0x9F⟩
  else if b < 0xF0 then .open ⟨2, b - 0xE0, 0x80, 0xBF⟩
  else if b = 0xF0 then .open ⟨3, 0, 0x90, 0xBF⟩
  else if b < 0xF4 then .open ⟨3, b - 0xF0, 0x80, 0xBF⟩
  else if b = 0xF4 then .open ⟨3, 4, 0x80, 0x8F⟩
  else .invalid

/-- Goes on with the byte that starts a character. -/
def pieceOfStart (rest : Option Utf8Head → List (Option Char)) (b : Nat) : List (Option Char) :=
  match startUtf8 b with
  | .complete c => some c :: rest none
  | .open head => rest (some head)
  | .invalid => none :: rest none

/-- The characters of bytes, with `none` for each piece that stands for none. -/
def utf8Pieces : Option Utf8Head → List UInt8 → List (Option Char)
  | none, [] => []
  | some _, [] => [none]
  | none, b :: bytes => pieceOfStart (fun head => utf8Pieces head bytes) b.toNat
  | some head, b :: bytes =>
      let n := b.toNat
      if head.low ≤ n ∧ n ≤ head.high then
        let code := head.code * 64 + (n - 0x80)
        if head.missing = 1 then some (Char.ofNat code) :: utf8Pieces none bytes
        else utf8Pieces (some ⟨head.missing - 1, code, 0x80, 0xBF⟩) bytes
      else none :: pieceOfStart (fun head => utf8Pieces head bytes) n

/-- The text of bytes, if they are one. -/
def decodeUtf8? (bytes : List UInt8) : Option (List Char) := (utf8Pieces none bytes).mapM id

/-- The text of bytes, with replacement characters. -/
def decodeLossy (bytes : List UInt8) : List Char :=
  (utf8Pieces none bytes).map (·.getD '\ufffd')

example : decodeUtf8? (utf8Bytes "aé€😀".toList) = some "aé€😀".toList := by decide
example : decodeUtf8? [0xC3] = none ∧ decodeLossy [0xE2, 0x82, 0x41] = ['\ufffd', 'A'] := by decide

end ShellQuery.Text
