import ShellQuery.Text.Identifier
import ShellQuery.Text.Quote

/-!
# Keys and strings in JSON quotes

In the shell a key may be a bare identifier, and a string may stand in any of
three quotes.  `quoteKeys` puts both into double quotes and leaves the rest of the
text alone.

An identifier is a key when it follows an opening brace or a comma and a colon
follows it.  Blanks between do not count.  A literal in double quotes is copied as
it is, also when it is left open.  In any other literal an escaped delimiter
loses its backslash, a double quote gets one, and a line feed becomes an escape.
-/

namespace ShellQuery.Argument

open ShellQuery.Text

/-- The body of a literal without the delimiter that closes it. -/
def dropDelimiter (q : Char) (body : List Char) : List Char :=
  if body.getLast? = some q then body.dropLast else body

/-- The body of a literal in quotes `q`, as the body of a literal in double
quotes. -/
def requote (q : Char) : List Char → List Char
  | [] => []
  | ['\\'] => ['\\', '\\']
  | '\\' :: c :: rest => if c = q then c :: requote q rest else '\\' :: c :: requote q rest
  | '"' :: rest => '\\' :: '"' :: requote q rest
  | '\n' :: rest => '\\' :: 'n' :: requote q rest
  | c :: rest => c :: requote q rest

/-- A literal in double quotes.  `body` is what follows the opening quote. -/
def doubleQuoted (q : Char) (body : List Char) : List Char :=
  if q = '"' then '"' :: body else '"' :: requote q (dropDelimiter q body) ++ ['"']

/-- Whether an identifier is a key, by the last character in front of it that is
not blank and the text after it. -/
def isKeyPlace (last : Option Char) (after : List Char) : Bool :=
  (last == some '\x7b' || last == some ',') && (skipBlank after).head? == some ':'

/-- A text with its bare keys and its string literals in double quotes.  `last` is
the last character in front of the text that is not blank. -/
def quoteKeysFrom (last : Option Char) : List Char → List Char
  | [] => []
  | c :: rest =>
      if isQuote c then
        doubleQuoted c (splitLiteral c rest).1 ++ quoteKeysFrom (some '"') (splitLiteral c rest).2
      else if isIdentStart c then
        let ident := c :: rest.takeWhile isIdentChar
        let after := rest.dropWhile isIdentChar
        (if isKeyPlace last after then '"' :: ident ++ ['"'] else ident)
          ++ quoteKeysFrom ident.getLast? after
      else c :: quoteKeysFrom (if isBlank c then last else some c) rest
termination_by text => text.length
decreasing_by
  · have := splitLiteral_length_le c rest
    simp only [List.length_cons]
    omega
  · have := (List.dropWhile_sublist isIdentChar (l := rest)).length_le
    simp only [List.length_cons]
    omega
  · simp

/-- A text with its bare keys and its string literals in double quotes. -/
def quoteKeys (text : List Char) : List Char := quoteKeysFrom none text

example : quoteKeys "\x7bit: 'it\\'s', \"a\": b\x7d".toList
    = "\x7b\"it\": \"it's\", \"a\": b\x7d".toList := by
  decide +kernel

end ShellQuery.Argument
