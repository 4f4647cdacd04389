import ShellQuery.Error.Query
import ShellQuery.Text.Group
import ShellQuery.Text.Identifier

/-!
# The base call of a statement

A statement starts with `db`, a collection, an operation and its arguments in
parentheses.  Blanks may stand between any two of these.  A collection whose name
is no identifier is written in quotes, as `db["name"]` or
`db.getCollection("name")`.

A quoted name is what stands between its first and its last character, which have
to be the same quote.  It must not be empty.
-/

namespace ShellQuery

open ShellQuery.Text

/-- The leading call of a statement. -/
structure BaseCall where
  /-- The name of the collection. -/
  collection : String
  /-- The name of the operation. -/
  operation : String
  /-- The text of the arguments, trimmed. -/
  args : String
  deriving DecidableEq, Repr

/-- The text between the quotes of a quoted name. -/
def unquote? (literal : List Char) : Option (List Char) :=
  match trim literal with
  | q :: body =>
      if (q = '"' || q = '\'') && body.getLast? = some q && !body.dropLast.isEmpty then
        some body.dropLast
      else none
  | [] => none

namespace BaseCall

/-- Reads a name in brackets and quotes. -/
def readQuotedName? (opener closer : Char) (text : List Char) :
    Option (List Char × List Char) := do
  let (body, rest) ← readGroup? opener closer text
  pure (← unquote? body, rest)

/-- Reads a collection: an identifier after a dot, or a quoted name. -/
def readCollection? (text : List Char) : Option (List Char × List Char) :=
  let text := skipBlank text
  match text with
  | '[' :: _ => readQuotedName? '[' ']' text
  | _ => do
      let (ident, rest) ← readIdent? (skipBlank (← expectChar? '.' text))
      let call := skipBlank rest
      if ident = "getCollection".toList && call.head? = some '(' then readQuotedName? '(' ')' call
      else pure (ident, rest)

/-- Reads a base call at the start of a text, and gives the text after it. -/
def read? (text : List Char) : Option (BaseCall × List Char) := do
  let (keyword, rest) ← readIdent? text
  if keyword = "db".toList then
    let (collection, rest) ← readCollection? rest
    let (operation, rest) ← readIdent? (skipBlank (← expectChar? '.' (skipBlank rest)))
    let (args, rest) ← readGroup? '(' ')' (skipBlank rest)
    pure
      ( { collection := String.ofList collection
          operation := String.ofList operation
          args := String.ofList (trim args) },
        rest )
  else none

/-- The base call of a statement, and the text after it. -/
def extract (statement : String) : Except ParseError (BaseCall × List Char) :=
  match read? (trim statement.toList) with
  | some result => .ok result
  | none => .error .invalidFormat

end BaseCall

example : (BaseCall.extract " db . c.find( \x7b\x7d ).limit(1)").toOption
    = some (⟨"c", "find", "\x7b\x7d"⟩, ".limit(1)".toList) := by
  decide

example : (BaseCall.extract "db['a-b'].count()").toOption = some (⟨"a-b", "count", ""⟩, []) := by
  decide

end ShellQuery
