import ShellQuery.Text.Group
import ShellQuery.Text.Identifier
import ShellQuery.Text.Word

/-!
# Function literals

`forEach` and `map` take a function.  Of it only the first parameter and the text
of the body are kept.  Nothing here runs a function.

There are two readings.  `whole?` reads a text that is one `function` literal from
the keyword to the last closing brace.  Its name may have any word characters, and
the parameter list ends at the first closing parenthesis after a comma.  Where it
does not apply, `matched?` goes by matching brackets.  It takes arrow functions
too, and text after the body.
-/

namespace ShellQuery

open ShellQuery.Text

/-- A function: its first parameter and its body. -/
structure FunctionLiteral where
  /-- The first parameter, or the empty string. -/
  param : String
  /-- The text of the body, trimmed. -/
  body : String
  deriving DecidableEq, Repr

namespace FunctionLiteral

/-- A function from the characters of its parameter and of its body. -/
def ofChars (param body : List Char) : FunctionLiteral :=
  ⟨String.ofList param, String.ofList (trim body)⟩

/-! ## One whole literal -/

/-- Whether a character may be part of a name in a whole literal. -/
def isNameChar (c : Char) : Bool := isWord c || c == '$'

/-- Reads the first parameter, if there is one. -/
def readParam (text : List Char) : List Char × List Char :=
  match text with
  | c :: rest =>
      if isIdentStart c then (c :: rest.takeWhile isNameChar, rest.dropWhile isNameChar)
      else ([], text)
  | [] => ([], [])

/-- The text after a parameter list, behind its first parameter. -/
def afterParams? (text : List Char) : Option (List Char) :=
  match text with
  | ',' :: rest => expectChar? ')' (rest.dropWhile (· ≠ ')'))
  | _ => expectChar? ')' text

/-- Reads a text that is one `function` literal. -/
def whole? (text : List Char) : Option FunctionLiteral := do
  let rest ← dropWord? "function".toList (skipBlank text)
  let rest := skipBlank ((skipBlank rest).dropWhile isNameChar)
  let (param, rest) := readParam (skipBlank (← expectChar? '(' rest))
  let rest ← afterParams? (skipBlank rest)
  let body ← expectChar? '\x7b' (skipBlank rest)
  let ending := trimEnd body
  if ending.getLast? = some '\x7d' then pure (ofChars param ending.dropLast) else none

/-! ## Matching brackets -/

/-- The first identifier of a parameter list, or nothing. -/
def firstParam (params : List Char) : List Char :=
  ((readIdent? (skipBlank params)).map Prod.fst).getD []

/-- Cuts a text at the first arrow, which belongs to neither part. -/
def splitArrow? : List Char → Option (List Char × List Char)
  | [] => none
  | '=' :: '>' :: rest => some ([], rest)
  | c :: rest => consToCut c (splitArrow? rest)

/-- Parameters without the parentheses around them. -/
def stripParens (params : List Char) : List Char :=
  match params with
  | '(' :: rest => if rest.getLast? = some ')' then rest.dropLast else params
  | _ => params

/-- Reads an arrow function from the texts before and after the arrow. -/
def arrow? (params rest : List Char) : Option FunctionLiteral :=
  let param := firstParam (stripParens (trim params))
  let rest := skipBlank rest
  if rest.head? = some '\x7b' then
    (readGroup? '\x7b' '\x7d' rest).map fun (body, _) => ofChars param body
  else some (ofChars param rest)

/-- Reads parameters in parentheses and a body in braces, wherever they start. -/
def brackets? (text : List Char) : Option FunctionLiteral := do
  let (params, rest) ← readGroup? '(' ')' (text.dropWhile (· ≠ '('))
  let (body, _) ← readGroup? '\x7b' '\x7d' (rest.dropWhile (· ≠ '\x7b'))
  pure (ofChars (firstParam params) body)

/-- Reads a trimmed text by its brackets. -/
def matched? (text : List Char) : Option FunctionLiteral :=
  match splitArrow? text with
  | some (params, rest) =>
      if (dropWord? "function".toList text).isSome then brackets? text else arrow? params rest
  | none => brackets? text

/-- The function that a text stands for, if it stands for one. -/
def read? (text : List Char) : Option FunctionLiteral := (whole? text).or (matched? (trim text))

end FunctionLiteral

example : FunctionLiteral.read? "function(doc, i) \x7b print(doc) \x7d".toList
    = some ⟨"doc", "print(doc)"⟩ := by
  decide +kernel

example : FunctionLiteral.read? "(d) => d.total".toList = some ⟨"d", "d.total"⟩ := by
  decide +kernel

end ShellQuery
