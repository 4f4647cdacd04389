/-!
# Writing TOML strings

A string is written in the first of these forms that needs no escapes: between
double quotes, between single quotes, between three double quotes, between three
single quotes.  If there is none it is written with escapes, on several lines if it
has a line end.

In the forms of several lines a line end is written as it is, and the text begins
on a line of its own if it has one.
-/

namespace ShellQuery.Toml

/-- What a string has in it. -/
structure Features where
  /-- The longest run of single quotes. -/
  singleRun : Nat
  /-- The longest run of double quotes. -/
  doubleRun : Nat
  /-- Whether there is a control character other than a tab and a line end. -/
  control : Bool
  /-- Whether there is a backslash. -/
  backslash : Bool
  /-- Whether there is a line end. -/
  newline : Bool
  deriving DecidableEq, Repr

/-- The longest run of a character.  `run` is the run that goes on at the start. -/
def longestRun (c : Char) (run : Nat) : List Char → Nat
  | [] => run
  | d :: rest => if d == c then longestRun c (run + 1) rest else max run (longestRun c 0 rest)

/-- Whether a character is a control character other than a tab and a line end. -/
def isControl (c : Char) : Bool :=
  c != '\t' && c != '\n' && (c.toNat < 0x20 || c.toNat == 0x7F)

/-- What a text has in it. -/
def featuresOf (text : List Char) : Features :=
  { singleRun := longestRun '\'' 0 text
    doubleRun := longestRun '"' 0 text
    control := text.any isControl
    backslash := text.contains '\\'
    newline := text.contains '\n' }

/-- How a string is written. -/
inductive Form where
  /-- Between double quotes. -/
  | basic
  /-- Between single quotes. -/
  | literal
  /-- Between three double quotes. -/
  | basicLines
  /-- Between three single quotes. -/
  | literalLines
  deriving DecidableEq, Repr

/-- The form for a text. -/
def formOf (f : Features) : Form :=
  if !f.control && !f.backslash && f.doubleRun = 0 && !f.newline then .basic
  else if !f.control && f.singleRun = 0 && !f.newline then .literal
  else if !f.control && !f.backslash && f.doubleRun ≤ 2 then .basicLines
  else if !f.control && f.singleRun ≤ 2 then .literalLines
  else if f.newline then .basicLines
  else .basic

/-- A hexadecimal digit in upper case. -/
def upperHexDigit (n : Nat) : Char := (Nat.digitChar (n % 16)).toUpper

/-- A character in a string with escapes.  Double quotes are not dealt with here. -/
def escapedChar (lines : Bool) (c : Char) : List Char :=
  match c with
  | '\x08' => ['\\', 'b']
  | '\t' => ['\\', 't']
  | '\n' => if lines then ['\n'] else ['\\', 'n']
  | '\x0c' => ['\\', 'f']
  | '\r' => ['\\', 'r']
  | '\\' => ['\\', '\\']
  | c =>
      if isControl c then
        ['\\', 'u', '0', '0', upperHexDigit (c.toNat / 16), upperHexDigit c.toNat]
      else [c]

/-- A text with escapes.  No more than `allowed` double quotes follow each other, and
`run` of them have just been written. -/
def escaped (lines : Bool) (allowed run : Nat) : List Char → List Char
  | [] => []
  | '"' :: rest =>
      if run < allowed then '"' :: escaped lines allowed (run + 1) rest
      else '\\' :: '"' :: escaped lines allowed 0 rest
  | c :: rest => escapedChar lines c ++ escaped lines allowed 0 rest

/-- A line end in front of a text that has one. -/
def opening (f : Features) : List Char := if f.newline then ['\n'] else []

/-- The characters of a string with its quotes. -/
def quotedChars (text : List Char) : List Char :=
  let f := featuresOf text
  match formOf f with
  | .basic => '"' :: escaped false 0 0 text ++ ['"']
  | .literal => '\'' :: text ++ ['\'']
  | .basicLines => ['"', '"', '"'] ++ opening f ++ escaped true 2 0 text ++ ['"', '"', '"']
  | .literalLines => ['\'', '\'', '\''] ++ opening f ++ text ++ ['\'', '\'', '\'']

/-- A string with its quotes. -/
def quoted (s : String) : String := String.ofList (quotedChars s.toList)

example : quoted "it's" = "\"it's\"" ∧ quoted "say \"hi\"" = "'say \"hi\"'" := by decide +kernel
example : quoted "both ' and \"" = "\"\"\"both ' and \"\"\"\"" := by decide +kernel

end ShellQuery.Toml
