import ShellQuery.Operation.Mapping
import ShellQuery.Statement.Split

/-!
# Statements and scripts

A statement is read as a base call, the chain behind it and the arguments, in
this order, and the first fault is its error.  Semicolons at its end are dropped
once.  A script is cut into statements, and each is read on its own.
-/

namespace ShellQuery

open ShellQuery.Text

/-- What one statement of a script came to. -/
structure StatementOutcome where
  /-- The statement. -/
  statement : String
  /-- Its descriptor, or why it was rejected. -/
  result : Except ParseError Descriptor
  /-- The chained calls that were ignored. -/
  warnings : List Warning

/-- A text without the semicolons at its end. -/
def dropSemicolons (text : List Char) : List Char :=
  (text.reverse.dropWhile (· == ';')).reverse

/-- A statement without the blanks around it and its last semicolons. -/
def bareStatement (text : List Char) : List Char := trim (dropSemicolons (trim text))

/-- Reads a statement. -/
def parseStatement (statement : String) : Except ParseError (Descriptor × List Warning) :=
  let text := bareStatement statement.toList
  if text.isEmpty then .error .emptyStatement
  else do
    let (call, rest) ← BaseCall.extract (String.ofList text)
    let chain := CursorCall.chain rest
    let args ← Argument.normalize call.args.toList
    Descriptor.ofCalls call chain args

/-- What a statement comes to. -/
def StatementOutcome.of (statement : String) : StatementOutcome :=
  match parseStatement statement with
  | .ok (descriptor, warnings) => ⟨statement, .ok descriptor, warnings⟩
  | .error e => ⟨statement, .error e, []⟩

/-- What the statements of a script come to, in order. -/
def parseScript (script : String) : List StatementOutcome :=
  (splitScript script).map StatementOutcome.of

end ShellQuery
