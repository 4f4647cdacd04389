import ShellQuery.Toml.Word

/-!
# Reading TOML

A document is read line by line into a table.  A line is blank, opens a table with
`[path]`, opens the next table of an array with `[[path]]`, or sets a key.  A comment
may end it.  Only a string of several lines, an array and an inline table go on over
a line end.

The recursion over nested values is bounded by the length of the text, which a
reader never exceeds since each step takes a character.
-/

namespace ShellQuery.Toml

/-- A reader takes a value off the start of a text. -/
abbrev Reader (α : Type) := List Char → Option (α × List Char)

/-! ## Space and comments -/

/-- Whether a character is a blank within a line. -/
def isSpace (c : Char) : Bool := c == ' ' || c == '\t'

/-- A text without the blanks at its start. -/
def skipSpace (text : List Char) : List Char := text.dropWhile isSpace

/-- Whether a character may stand in a comment or a string of one line. -/
def isPrintable (c : Char) : Bool := c == '\t' || (0x20 ≤ c.toNat && c.toNat != 0x7F)

/-- The text behind a line end. -/
def lineEnd? : List Char → Option (List Char)
  | '\n' :: rest => some rest
  | '\r' :: '\n' :: rest => some rest
  | _ => none

/-- A text without a comment at its start. -/
def skipComment (text : List Char) : List Char :=
  match text with
  | '#' :: rest => rest.dropWhile isPrintable
  | _ => text

/-- The text behind the end of a line, which may have a comment. -/
def finishLine? (text : List Char) : Option (List Char) :=
  match skipComment (skipSpace text) with
  | [] => some []
  | rest => lineEnd? rest

/-- A text without the blanks, comments and line ends at its start. -/
def skipLines : Nat → List Char → List Char
  | 0, text => text
  | fuel + 1, text =>
      let rest := skipComment (skipSpace text)
      match lineEnd? rest with
      | some rest => skipLines fuel rest
      | none => rest

/-- A text without all the blanks, comments and line ends at its start. -/
def skipAll (text : List Char) : List Char := skipLines text.length text

/-! ## Strings -/

/-- The character with a number, if there is one. -/
def character? (n : Nat) : Option Char := if n.isValidChar then some (Char.ofNat n) else none

/-- Reads the character whose number has the given count of hexadecimal digits. -/
def readCode (count : Nat) : Reader Char := fun text =>
  let digits := text.take count
  if digits.length = count && digits.all (isDigitInBase 16) then
    (character? (valueInBase 16 digits)).map (·, text.drop count)
  else none

/-- Reads the escape behind a backslash. -/
def readEscape : Reader Char
  | 'b' :: rest => some ('\x08', rest)
  | 't' :: rest => some ('\t', rest)
  | 'n' :: rest => some ('\n', rest)
  | 'f' :: rest => some ('\x0c', rest)
  | 'r' :: rest => some ('\r', rest)
  | 'e' :: rest => some ('\x1b', rest)
  | '"' :: rest => some ('"', rest)
  | '\\' :: rest => some ('\\', rest)
  | 'x' :: rest => readCode 2 rest
  | 'u' :: rest => readCode 4 rest
  | 'U' :: rest => readCode 8 rest
  | _ => none

/-- Reads the rest of a string with escapes. -/
def readBasic : Nat → Reader (List Char)
  | _, '"' :: rest => some ([], rest)
  | 0, _ => none
  | fuel + 1, '\\' :: rest => do
      let (c, rest) ← readEscape rest
      let (cs, rest) ← readBasic fuel rest
      some (c :: cs, rest)
  | fuel + 1, c :: rest =>
      if isPrintable c then (readBasic fuel rest).map fun (cs, rest) => (c :: cs, rest) else none
  | _, [] => none

/-- Reads the rest of a string without escapes. -/
def readLiteral : Reader (List Char)
  | '\'' :: rest => some ([], rest)
  | c :: rest =>
      if isPrintable c then (readLiteral rest).map fun (cs, rest) => (c :: cs, rest) else none
  | [] => none

/-- The end of a string of several lines: three quotes, and up to two more that
belong to it. -/
def closing? (quote : Char) (text : List Char) : Option (List Char × List Char) :=
  let quotes := text.takeWhile (· == quote)
  if quotes.length < 3 then none
  else
    let extra := min (quotes.length - 3) 2
    some (List.replicate extra quote, text.drop (3 + extra))

/-- The text behind the blanks and line ends that a backslash at the end of a line
joins. -/
def joined? (text : List Char) : Option (List Char) :=
  (lineEnd? (skipSpace text)).map fun rest =>
    rest.dropWhile fun c => isSpace c || c == '\n' || c == '\r'

/-- Reads the rest of a string of several lines. -/
def readLines (quote : Char) (escapes : Bool) : Nat → Reader (List Char)
  | 0, _ => none
  | fuel + 1, text =>
      match closing? quote text with
      | some (quotes, rest) => some (quotes, rest)
      | none =>
          match text with
          | [] => none
          | '\r' :: '\n' :: rest =>
              (readLines quote escapes fuel rest).map fun (cs, rest) => ('\n' :: cs, rest)
          | c :: rest =>
              if c == '\\' && escapes then
                match joined? rest with
                | some rest => readLines quote escapes fuel rest
                | none => do
                    let (c, rest) ← readEscape rest
                    let (cs, rest) ← readLines quote escapes fuel rest
                    some (c :: cs, rest)
              else if isPrintable c || c == '\n' then
                (readLines quote escapes fuel rest).map fun (cs, rest) => (c :: cs, rest)
              else none

/-- Reads a string of several lines.  A line end right behind the quotes is not part
of it. -/
def readLinesAfter (quote : Char) (escapes : Bool) : Reader (List Char) := fun text =>
  readLines quote escapes (text.length + 1) ((lineEnd? text).getD text)

/-- Reads a string of any kind. -/
def readString : Reader String := fun text =>
  let found :=
    match text with
    | '"' :: '"' :: '"' :: rest => readLinesAfter '"' true rest
    | '\'' :: '\'' :: '\'' :: rest => readLinesAfter '\'' false rest
    | '"' :: rest => readBasic rest.length rest
    | '\'' :: rest => readLiteral rest
    | _ => none
  found.map fun (cs, rest) => (String.ofList cs, rest)

/-! ## Keys -/

/-- Whether a character may stand in a bare key. -/
def isBare (c : Char) : Bool := c.isAlphanum || c == '_' || c == '-'

/-- Reads a key without dots. -/
def readSimpleKey : Reader String := fun text =>
  match text with
  | '"' :: rest => (readBasic rest.length rest).map fun (cs, rest) => (String.ofList cs, rest)
  | '\'' :: rest => (readLiteral rest).map fun (cs, rest) => (String.ofList cs, rest)
  | _ =>
      let key := text.takeWhile isBare
      if key.isEmpty then none else some (String.ofList key, text.dropWhile isBare)

/-- Reads a key with dots.  The result is the path in front of the last part, and
that part. -/
def readKey : Nat → Reader (List String × String)
  | 0, _ => none
  | fuel + 1, text => do
      let (part, rest) ← readSimpleKey (skipSpace text)
      match skipSpace rest with
      | '.' :: rest =>
          let ((path, key), rest) ← readKey fuel rest
          some ((part :: path, key), rest)
      | rest => some (([], part), rest)

/-- Reads a whole key. -/
def readWholeKey : Reader (List String × String) := fun text => readKey text.length text

/-! ## Values -/

/-- Whether a character may stand in a word. -/
def isWordChar (c : Char) : Bool := isBare c || c == '+' || c == '.' || c == ':'

/-- Reads a bare value.  A blank may stand between a date and a time. -/
def readWord : Reader Toml := fun text =>
  let word := text.takeWhile isWordChar
  let rest := text.dropWhile isWordChar
  let time := rest.tail.takeWhile isWordChar
  let both := word ++ ' ' :: time
  if rest.head? == some ' ' && (afterDate? word == some []) && isDate both then
    some (.date, rest.tail.dropWhile isWordChar)
  else (ofWord? word).map (·, rest)

mutual

/-- Reads a value. -/
def readValue : Nat → Reader Toml
  | 0, _ => none
  | fuel + 1, text =>
      match text with
      | '"' :: _ | '\'' :: _ => (readString text).map fun (s, rest) => (.string s, rest)
      | '[' :: rest => (readItems fuel rest).map fun (items, rest) => (.array items, rest)
      | '\x7b' :: rest =>
          (readInline fuel [] (skipAll rest)).map fun (entries, rest) =>
            (.table .inline entries, rest)
      | _ => readWord text

/-- Reads the items of an array and its closing bracket. -/
def readItems : Nat → Reader (List Toml)
  | 0, _ => none
  | fuel + 1, text =>
      match skipAll text with
      | ']' :: rest => some ([], rest)
      | text => do
          let (item, rest) ← readValue fuel text
          match skipAll rest with
          | ',' :: rest =>
              let (items, rest) ← readItems fuel rest
              some (item :: items, rest)
          | ']' :: rest => some ([item], rest)
          | _ => none

/-- Reads the entries of an inline table and its closing brace. -/
def readInline : Nat → TomlEntries → Reader TomlEntries
  | 0, _, _ => none
  | fuel + 1, entries, text =>
      match text with
      | '\x7d' :: rest => some (entries, rest)
      | _ => do
          let ((path, key), rest) ← readWholeKey text
          match skipSpace rest with
          | '=' :: rest =>
              let (value, rest) ← readValue fuel (skipSpace rest)
              let entries ← addKey path key value .inline entries
              match skipAll rest with
              | ',' :: rest => readInline fuel entries (skipAll rest)
              | '\x7d' :: rest => some (entries, rest)
              | _ => none
          | _ => none

end

/-! ## Lines -/

/-- What has been read of a document. -/
structure Progress where
  /-- The path of the last header. -/
  header : List String := []
  /-- The document. -/
  entries : TomlEntries := []

/-- Reads a line that sets a key. -/
def readSetting (p : Progress) : Reader Progress := fun text => do
  let ((path, key), rest) ← readWholeKey text
  match skipSpace rest with
  | '=' :: rest =>
      let rest := skipSpace rest
      let (value, rest) ← readValue (rest.length + 1) rest
      let entries ← addBelow p.header path key value p.entries
      some ({ p with entries := entries }, rest)
  | _ => none

/-- Reads a header. -/
def readHeader (p : Progress) : Reader Progress
  | '[' :: text => do
      let ((path, key), rest) ← readWholeKey text
      match rest with
      | ']' :: ']' :: rest =>
          let entries ← openItem path key .header p.entries
          some (⟨path ++ [key], entries⟩, rest)
      | _ => none
  | text => do
      let ((path, key), rest) ← readWholeKey text
      match rest with
      | ']' :: rest =>
          let entries ← openTable path key .header p.entries
          some (⟨path ++ [key], entries⟩, rest)
      | _ => none

/-- Reads lines to the end of a document. -/
def readDocument : Nat → Progress → List Char → Option TomlEntries
  | 0, _, _ => none
  | fuel + 1, p, text =>
      match skipAll text with
      | [] => some p.entries
      | '[' :: rest => do
          let (p, rest) ← readHeader p rest
          readDocument fuel p (← finishLine? rest)
      | text => do
          let (p, rest) ← readSetting p text
          readDocument fuel p (← finishLine? rest)

/-- A text without a byte order mark. -/
def withoutMark : List Char → List Char
  | '\ufeff' :: rest => rest
  | text => text

/-- Reads a document. -/
def parse? (s : String) : Option TomlEntries :=
  let text := withoutMark s.toList
  readDocument (text.length + 1) {} text

end ShellQuery.Toml
