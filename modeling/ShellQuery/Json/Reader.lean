import ShellQuery.Json.Value
import ShellQuery.Number.Width
import ShellQuery.Text.Hex
import ShellQuery.Text.Position

/-!
# Reading JSON

The reader takes a text apart from left to right and stops at the first fault.
Values nest at most 127 levels deep: the opening bracket of the 128th level is a
fault.  The recursion of the reader is over the levels that are left.  Lists of
items and of members are bounded by the length of the text.

A number without fraction and exponent that fits 64 bits is an integer.  Any
other number takes its digits into a 64-bit significand, drops the digits that no
longer fit, and scales the significand by one power of ten at a time.  The result
is not always the binary64 number nearest to the text.

A fault names its cause and where it was seen.  The place is kept as the text
that was still unread, and `Fault.place` turns it into a line and a column.
-/

namespace ShellQuery.Json

/-! ## Faults -/

/-- Why a text is not JSON. -/
inductive Cause where
  /-- The text ends where a value or its next part should be. -/
  | eofValue
  /-- The text ends inside an array. -/
  | eofList
  /-- The text ends inside an object. -/
  | eofObject
  /-- The text ends inside a string. -/
  | eofString
  /-- No value starts with this character. -/
  | expectedValue
  /-- A word that starts like `null`, `true` or `false` goes on differently. -/
  | expectedIdent
  /-- A number lacks a digit or has one too many. -/
  | invalidNumber
  /-- A number is too large. -/
  | numberOutOfRange
  /-- A string holds a raw control character. -/
  | controlCharacter
  /-- A backslash is followed by nothing it can escape. -/
  | invalidEscape
  /-- Half a surrogate pair stands alone. -/
  | loneSurrogate
  /-- The first half of a surrogate pair is not followed by an escape. -/
  | endOfHexEscape
  /-- An item is followed by neither a comma nor the closing bracket. -/
  | expectedListCommaOrEnd
  /-- A member is followed by neither a comma nor the closing brace. -/
  | expectedObjectCommaOrEnd
  /-- A key is not followed by a colon. -/
  | expectedColon
  /-- A comma is followed by the closing bracket. -/
  | trailingComma
  /-- A key is not a string. -/
  | keyMustBeString
  /-- The value is followed by more text. -/
  | trailingCharacters
  /-- The value nests too deeply. -/
  | recursionLimit
  deriving DecidableEq, Repr

/-- The wording of a cause. -/
def Cause.message : Cause → String
  | eofValue => "EOF while parsing a value"
  | eofList => "EOF while parsing a list"
  | eofObject => "EOF while parsing an object"
  | eofString => "EOF while parsing a string"
  | expectedValue => "expected value"
  | expectedIdent => "expected ident"
  | invalidNumber => "invalid number"
  | numberOutOfRange => "number out of range"
  | controlCharacter =>
      "control character (\\u0000-\\u001F) found while parsing a string"
  | invalidEscape => "invalid escape"
  | loneSurrogate => "lone leading surrogate in hex escape"
  | endOfHexEscape => "unexpected end of hex escape"
  | expectedListCommaOrEnd => "expected \x60,\x60 or \x60]\x60"
  | expectedObjectCommaOrEnd => "expected \x60,\x60 or \x60\x7d\x60"
  | expectedColon => "expected \x60:\x60"
  | trailingComma => "trailing comma"
  | keyMustBeString => "key must be a string"
  | trailingCharacters => "trailing characters"
  | recursionLimit => "recursion limit exceeded"

/-- A fault and the place where it was seen. -/
structure Fault where
  /-- The cause. -/
  cause : Cause
  /-- The text that was unread. -/
  unread : List Char
  /-- How many bytes of the unread text were looked at. -/
  bytes : Nat
  deriving DecidableEq, Repr

/-- The line and the column of a fault in the whole text. -/
def Fault.place (text : List Char) (f : Fault) : Nat × Nat :=
  let total := Text.utf8Length text
  Text.lineColumn text (min total (total - Text.utf8Length f.unread + f.bytes))

/-- The message for a fault in the whole text. -/
def Fault.message (text : List Char) (f : Fault) : String :=
  let (line, column) := f.place text
  f.cause.message ++ " at line " ++ toString line ++ " column " ++ toString column

/-- A fault at the next character: the place is just past its first byte. -/
def failAt {α : Type} (cause : Cause) (unread : List Char) : Except Fault α :=
  .error ⟨cause, unread, 1⟩

/-- A fault just before the unread text. -/
def failBefore {α : Type} (cause : Cause) (unread : List Char) : Except Fault α :=
  .error ⟨cause, unread, 0⟩

/-- A reader takes something off the start of a text. -/
abbrev Reader (α : Type) := List Char → Except Fault (α × List Char)

/-- Whether a character is white space in JSON. -/
def isSpace (c : Char) : Bool := c == ' ' || c == '\n' || c == '\t' || c == '\r'

/-- The text after the white space at its start. -/
def skipSpace (text : List Char) : List Char := text.dropWhile isSpace

/-! ## Words -/

/-- Reads the rest of a word. -/
def readWord : List Char → List Char → Except Fault (List Char)
  | [], text => .ok text
  | _ :: _, [] => failBefore .eofValue []
  | w :: word, c :: rest =>
      if c = w then readWord word rest else failAt .expectedIdent (c :: rest)

/-! ## Numbers -/

/-- The largest significand that is kept. -/
def significandMax : Nat := Width.words64 - 1

/-- The largest exponent that is kept. -/
def exponentMax : Nat := Width.int32Max.toNat

/-- The value of a decimal digit. -/
def digitValue (c : Char) : Nat := c.toNat - '0'.toNat

/-- A power of ten up to the largest binary64 one, rounded to nearest. -/
def powerOfTen (e : Nat) : Float := Float.ofScientific 1 false e

/-- Scales a significand by a power of ten.  `none` means that the result is out
of range.  An exponent below `-308` is taken in steps. -/
def scaleFloat? (x : Float) (exponent : Int) : Nat → Option Float
  | 0 => some x
  | steps + 1 =>
      if exponent.natAbs ≤ 308 then
        if 0 ≤ exponent then
          let y := x * powerOfTen exponent.natAbs
          if y.isInf then none else some y
        else some (x / powerOfTen exponent.natAbs)
      else if x == 0 then some x
      else if 0 ≤ exponent then none
      else scaleFloat? (x / powerOfTen 308) (exponent + 308) steps

/-- The float `± significand · 10 ^ exponent`.  Three steps bring any significand
of 64 bits to zero. -/
def floatOfParts? (negative : Bool) (significand : Nat) (exponent : Int) : Option Float :=
  (scaleFloat? (Float.ofNat significand) exponent 4).map fun x => if negative then -x else x

/-- A number text taken apart so far. -/
structure Scan where
  /-- The digits that were kept. -/
  significand : Nat
  /-- The power of ten that goes with them. -/
  exponent : Int
  /-- The text after them. -/
  rest : List Char

/-- Takes digits into the significand as long as it fits, each lowering the
exponent by `weight`. -/
def takeDigits (weight : Int) (significand : Nat) (exponent : Int) : List Char → Scan
  | [] => ⟨significand, exponent, []⟩
  | c :: rest =>
      let next := significand * 10 + digitValue c
      if c.isDigit && next ≤ significandMax then takeDigits weight next (exponent - weight) rest
      else ⟨significand, exponent, c :: rest⟩

/-- The float at the end of a number text. -/
def finishFloat (negative : Bool) (s : Scan) : Except Fault (Json × List Char) :=
  match floatOfParts? negative s.significand s.exponent with
  | some x => .ok (.float x, s.rest)
  | none => failBefore .numberOutOfRange s.rest

/-- The digits of an exponent: its value, or `none` where it grows too large, and
the text after the digits that were taken. -/
def takeExponent (value : Nat) : List Char → Option Nat × List Char
  | [] => (some value, [])
  | c :: rest =>
      if c.isDigit then
        let next := value * 10 + digitValue c
        if next ≤ exponentMax then takeExponent next rest else (none, rest)
      else (some value, c :: rest)

/-- Keeps an exponent within 32 bits. -/
def clampExponent (e : Int) : Int := max Width.int32Min (min Width.int32Max e)

/-- Reads an exponent, of which the letter is already gone. -/
def readExponent (negative : Bool) (s : Scan) : Except Fault (Json × List Char) :=
  let (minus, text) :=
    match s.rest with
    | '+' :: rest => (false, rest)
    | '-' :: rest => (true, rest)
    | rest => (false, rest)
  match text with
  | [] => failBefore .eofValue []
  | c :: rest =>
      if c.isDigit then
        match takeExponent (digitValue c) rest with
        | (some e, rest') =>
            let shift : Int := if minus then -(e : Int) else e
            finishFloat negative ⟨s.significand, clampExponent (s.exponent + shift), rest'⟩
        | (none, rest') =>
            if s.significand ≠ 0 && !minus then failBefore .numberOutOfRange rest'
            else
              .ok (.float (if negative then -0.0 else 0.0), rest'.dropWhile Char.isDigit)
      else failAt .invalidNumber (c :: rest)

/-- Reads what may follow the digits of a float: an exponent or nothing. -/
def readFloatEnd (negative : Bool) (s : Scan) : Except Fault (Json × List Char) :=
  match s.rest with
  | c :: rest =>
      if c = 'e' || c = 'E' then readExponent negative { s with rest := rest }
      else finishFloat negative s
  | [] => finishFloat negative s

/-- Reads a fraction, of which the point is already gone. -/
def readFraction (negative : Bool) (s : Scan) : Except Fault (Json × List Char) :=
  match s.rest with
  | [] => failBefore .eofValue []
  | c :: _ =>
      if c.isDigit then
        let taken := takeDigits 1 s.significand s.exponent s.rest
        readFloatEnd negative { taken with rest := taken.rest.dropWhile Char.isDigit }
      else failAt .invalidNumber s.rest

/-- Reads what follows the integer digits that were kept. -/
def readNumberEnd (negative : Bool) (significand : Nat) (text : List Char) :
    Except Fault (Json × List Char) :=
  match text with
  | '.' :: rest => readFraction negative ⟨significand, 0, rest⟩
  | c :: rest =>
      if c = 'e' || c = 'E' then readExponent negative ⟨significand, 0, rest⟩
      else if c.isDigit then
        -- the digit does not fit: the other integer digits only scale the number
        let dropped := (text.takeWhile Char.isDigit).length
        match text.dropWhile Char.isDigit with
        | '.' :: after => readFraction negative ⟨significand, dropped, after⟩
        | after => readFloatEnd negative ⟨significand, dropped, after⟩
      else integer text
  | [] => integer []
where
  /-- An integer, or the float next to it where it does not fit. -/
  integer (rest : List Char) : Except Fault (Json × List Char) :=
    if !negative then .ok (.int significand, rest)
    else if 0 < significand && Width.isInt64 (-(significand : Int)) then
      .ok (.int (-(significand : Int)), rest)
    else .ok (.float (-(Float.ofNat significand)), rest)

/-- Reads a number, of which the sign is already gone. -/
def readNumber (negative : Bool) (text : List Char) : Except Fault (Json × List Char) :=
  match text with
  | [] => failBefore .eofValue []
  | '0' :: rest =>
      match rest with
      | c :: _ => if c.isDigit then failAt .invalidNumber rest else readNumberEnd negative 0 rest
      | [] => readNumberEnd negative 0 []
  | c :: rest =>
      if c.isDigit then
        let taken := takeDigits 0 (digitValue c) 0 rest
        readNumberEnd negative taken.significand taken.rest
      else failAt .invalidNumber text

/-! ## Strings -/

/-- Reads the four digits of a hexadecimal escape.  Four bytes are looked at,
whatever they are. -/
def readHex (text : List Char) : Except Fault (Nat × List Char) :=
  if Text.utf8Length (text.take 4) < 4 then failBefore .eofString []
  else
    match text with
    | a :: b :: c :: d :: rest =>
        match Text.hexDigit? a, Text.hexDigit? b, Text.hexDigit? c, Text.hexDigit? d with
        | some a, some b, some c, some d =>
            .ok (a.val * 4096 + b.val * 256 + c.val * 16 + d.val, rest)
        | _, _, _, _ => .error ⟨.invalidEscape, text, 4⟩
    | _ => .error ⟨.invalidEscape, text, 4⟩

/-- Reads one given character inside the escape of a surrogate pair. -/
def expectInPair (wanted : Char) : List Char → Except Fault (List Char)
  | [] => failBefore .eofString []
  | c :: rest => if c = wanted then .ok rest else failAt .endOfHexEscape (c :: rest)

/-- Reads a hexadecimal escape, of which the letter is already gone.  The first
half of a surrogate pair takes the second half along. -/
def readUnicodeEscape (text : List Char) : Except Fault (Char × List Char) := do
  let (first, rest) ← readHex text
  if 0xDC00 ≤ first && first ≤ 0xDFFF then failBefore .loneSurrogate rest
  else if first < 0xD800 || 0xDBFF < first then .ok (Char.ofNat first, rest)
  else
    let rest ← expectInPair '\\' rest
    let rest ← expectInPair 'u' rest
    let (second, rest) ← readHex rest
    if second < 0xDC00 || 0xDFFF < second then failBefore .loneSurrogate rest
    else .ok (Char.ofNat (0x10000 + (first - 0xD800) * 0x400 + (second - 0xDC00)), rest)

/-- Reads an escape, of which the backslash is already gone. -/
def readEscape : List Char → Except Fault (Char × List Char)
  | [] => failBefore .eofString []
  | '"' :: rest => .ok ('"', rest)
  | '\\' :: rest => .ok ('\\', rest)
  | '/' :: rest => .ok ('/', rest)
  | 'b' :: rest => .ok ('\x08', rest)
  | 'f' :: rest => .ok ('\x0c', rest)
  | 'n' :: rest => .ok ('\n', rest)
  | 'r' :: rest => .ok ('\r', rest)
  | 't' :: rest => .ok ('\t', rest)
  | 'u' :: rest => readUnicodeEscape rest
  | c :: rest => failAt .invalidEscape (c :: rest)

/-- Reads the rest of a string up to its closing quote.  `fuel` bounds the
characters that are read. -/
def readChars : Nat → List Char → Except Fault (List Char × List Char)
  | 0, text => failBefore .eofString text
  | _ + 1, [] => failBefore .eofString []
  | fuel + 1, c :: rest =>
      if c = '"' then .ok ([], rest)
      else if c = '\\' then do
        let (d, after) ← readEscape rest
        let (more, after) ← readChars fuel after
        .ok (d :: more, after)
      else if c.toNat < 0x20 then failAt .controlCharacter (c :: rest)
      else do
        let (more, after) ← readChars fuel rest
        .ok (c :: more, after)

/-- Reads a string, of which the opening quote is already gone. -/
def readString (text : List Char) : Except Fault (String × List Char) := do
  let (chars, rest) ← readChars (text.length + 1) text
  .ok (String.ofList chars, rest)

/-! ## Values -/

/-- Reads the items after the first one of an array, with its closing bracket. -/
def readItems (item : Reader Json) : Nat → Reader (List Json)
  | 0, text => failBefore .eofList text
  | fuel + 1, text =>
      match skipSpace text with
      | [] => failBefore .eofList []
      | ']' :: rest => .ok ([], rest)
      | ',' :: rest =>
          match skipSpace rest with
          | [] => failBefore .eofValue []
          | ']' :: after => failAt .trailingComma (']' :: after)
          | next => do
              let (x, after) ← item next
              let (xs, after) ← readItems item fuel after
              .ok (x :: xs, after)
      | other => failAt .expectedListCommaOrEnd other

/-- Reads an array, of which the opening bracket is already gone. -/
def readArray (item : Reader Json) (text : List Char) :
    Except Fault (Json × List Char) :=
  match skipSpace text with
  | [] => failBefore .eofList []
  | ']' :: rest => .ok (.array [], rest)
  | next => do
      let (x, after) ← item next
      let (xs, after) ← readItems item (after.length + 1) after
      .ok (.array (x :: xs), after)

/-- Reads a key, the colon and the value of a member. -/
def readMember (item : Reader Json) (text : List Char) :
    Except Fault ((String × Json) × List Char) :=
  match text with
  | '"' :: rest => do
      let (key, after) ← readString rest
      match skipSpace after with
      | [] => failBefore .eofObject []
      | ':' :: after => do
          let (value, after) ← item after
          .ok ((key, value), after)
      | other => failAt .expectedColon other
  | [] => failBefore .eofValue []
  | '\x7d' :: _ => failAt .trailingComma text
  | _ => failAt .keyMustBeString text

/-- Reads the members after the first one of an object, with its closing brace. -/
def readMembers (item : Reader Json) :
    Nat → JsonMembers → Reader JsonMembers
  | 0, _, text => failBefore .eofObject text
  | fuel + 1, members, text =>
      match skipSpace text with
      | [] => failBefore .eofObject []
      | '\x7d' :: rest => .ok (members, rest)
      | ',' :: rest => do
          let ((key, value), after) ← readMember item (skipSpace rest)
          readMembers item fuel (put key value members) after
      | other => failAt .expectedObjectCommaOrEnd other

/-- Reads an object, of which the opening brace is already gone. -/
def readObject (item : Reader Json) (text : List Char) :
    Except Fault (Json × List Char) :=
  match skipSpace text with
  | [] => failBefore .eofObject []
  | '\x7d' :: rest => .ok (.object [], rest)
  | next => do
      let ((key, value), after) ← readMember item next
      let (members, after) ← readMembers item (after.length + 1) [(key, value)] after
      .ok (.object members, after)

/-- Reads a value after white space.  `levels` is how many more brackets may be
opened. -/
def readValue (levels : Nat) (text : List Char) : Except Fault (Json × List Char) :=
  match skipSpace text with
  | [] => failBefore .eofValue []
  | 'n' :: rest => do .ok (.null, ← readWord ['u', 'l', 'l'] rest)
  | 't' :: rest => do .ok (.bool true, ← readWord ['r', 'u', 'e'] rest)
  | 'f' :: rest => do .ok (.bool false, ← readWord ['a', 'l', 's', 'e'] rest)
  | '-' :: rest => readNumber true rest
  | '"' :: rest => do
      let (s, after) ← readString rest
      .ok (.string s, after)
  | '[' :: rest =>
      match levels with
      | 0 => failAt .recursionLimit ('[' :: rest)
      | levels + 1 => readArray (readValue levels) rest
  | '\x7b' :: rest =>
      match levels with
      | 0 => failAt .recursionLimit ('\x7b' :: rest)
      | levels + 1 => readObject (readValue levels) rest
  | c :: rest =>
      if c.isDigit then readNumber false (c :: rest) else failAt .expectedValue (c :: rest)

/-- How deep a value may nest. -/
def maxLevels : Nat := 127

/-- Reads a text that holds one value and white space. -/
def readText (text : List Char) : Except Fault Json := do
  let (value, rest) ← readValue maxLevels text
  match skipSpace rest with
  | [] => .ok value
  | more => failAt .trailingCharacters more

/-- Reads a text that holds one value, with a message for a fault. -/
def parse (text : List Char) : Except String Json :=
  (readText text).mapError (Fault.message text)

end ShellQuery.Json
