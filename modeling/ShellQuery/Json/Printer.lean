import ShellQuery.Json.Value
import ShellQuery.Number.Layout
import ShellQuery.Text.Hex

/-!
# JSON texts

`Json.compact` writes a value on one line with no space between tokens, and
`Json.pretty` writes one member or item a line.  In a string only the quote, the
backslash and the control characters below U+0020 are escaped.

No compact text holds a raw control character: `escapeChar` escapes each of
them, and nothing else that is written is one.
-/

namespace ShellQuery.Json

/-! ## Strings and numbers -/

/-- The text of one character inside a string. -/
def escapeChar (c : Char) : List Char :=
  match c with
  | '"' => ['\\', '"']
  | '\\' => ['\\', '\\']
  | '\x08' => ['\\', 'b']
  | '\x0c' => ['\\', 'f']
  | '\n' => ['\\', 'n']
  | '\r' => ['\\', 'r']
  | '\t' => ['\\', 't']
  | c =>
      if c.toNat < 0x20 then
        ['\\', 'u', '0', '0', Text.hexDigit (c.toNat / 16), Text.hexDigit c.toNat]
      else [c]

/-- The text of a string, with its quotes. -/
def stringText (s : List Char) : List Char := '"' :: (s.flatMap escapeChar ++ ['"'])

/-- The text of a number.  A float that is not finite has no text of its own and
is written as `null`. -/
def numberText : JsonNumber → List Char
  | .int n => intText n
  | .float x => (FloatLayout.json.text? x).getD ['n', 'u', 'l', 'l']

/-! ## One line -/

mutual

/-- The characters of a value on one line. -/
def compactChars : Json → List Char
  | null => ['n', 'u', 'l', 'l']
  | bool true => ['t', 'r', 'u', 'e']
  | bool false => ['f', 'a', 'l', 's', 'e']
  | number n => numberText n
  | string s => stringText s.toList
  | array [] => ['[', ']']
  | array (x :: rest) => '[' :: compactChars x ++ compactItems rest
  | object [] => ['\x7b', '\x7d']
  | object ((k, v) :: rest) =>
      '\x7b' :: stringText k.toList ++ ':' :: compactChars v ++ compactMembers rest

/-- The items after the first, with the closing bracket. -/
def compactItems : List Json → List Char
  | [] => [']']
  | x :: rest => ',' :: compactChars x ++ compactItems rest

/-- The members after the first, with the closing brace. -/
def compactMembers : List (String × Json) → List Char
  | [] => ['\x7d']
  | (k, v) :: rest => ',' :: stringText k.toList ++ ':' :: compactChars v ++ compactMembers rest

end

/-- A value on one line. -/
def compact (v : Json) : String := String.ofList (compactChars v)

/-! ## One member or item a line -/

/-- A line end and the space before the next line. -/
def newLine (indent level : Nat) : List Char := '\n' :: List.replicate (indent * level) ' '

mutual

/-- The characters of a value, one member or item a line.  `level` counts the
brackets around it. -/
def prettyChars (indent level : Nat) : Json → List Char
  | null => ['n', 'u', 'l', 'l']
  | bool true => ['t', 'r', 'u', 'e']
  | bool false => ['f', 'a', 'l', 's', 'e']
  | number n => numberText n
  | string s => stringText s.toList
  | array [] => ['[', ']']
  | array (x :: rest) =>
      '[' :: newLine indent (level + 1) ++ prettyChars indent (level + 1) x
        ++ prettyItems indent level rest
  | object [] => ['\x7b', '\x7d']
  | object ((k, v) :: rest) =>
      '\x7b' :: newLine indent (level + 1) ++ stringText k.toList ++ [':', ' ']
        ++ prettyChars indent (level + 1) v ++ prettyMembers indent level rest

/-- The items after the first, with the closing bracket on a line of its own. -/
def prettyItems (indent level : Nat) : List Json → List Char
  | [] => newLine indent level ++ [']']
  | x :: rest =>
      ',' :: newLine indent (level + 1) ++ prettyChars indent (level + 1) x
        ++ prettyItems indent level rest

/-- The members after the first, with the closing brace on a line of its own. -/
def prettyMembers (indent level : Nat) : List (String × Json) → List Char
  | [] => newLine indent level ++ ['\x7d']
  | (k, v) :: rest =>
      ',' :: newLine indent (level + 1) ++ stringText k.toList ++ [':', ' ']
        ++ prettyChars indent (level + 1) v ++ prettyMembers indent level rest

end

/-- A value with one member or item a line, indented by `indent` spaces a level. -/
def pretty (indent : Nat) (v : Json) : String := String.ofList (prettyChars indent 0 v)

example : compact (.array [.int (-1), .object [("a", .null)]]) = "[-1,\x7b\"a\":null\x7d]" := by
  decide

end ShellQuery.Json
