import ShellQuery.Argument.Constructor
import ShellQuery.Argument.DateLiteral
import ShellQuery.Argument.Quoting
import ShellQuery.Error.Query
import ShellQuery.Json.Reader

/-!
# Argument values

The arguments of a call are read in steps.  Constructor calls become extended JSON
objects, keys and strings get double quotes, and date literals are taken out.
The text between brackets is then JSON, and the dates are put back into its
values.

A fault is reported at its place in the text that is read as JSON.
-/

namespace ShellQuery.Argument

/-- The items of an array, and any other value alone. -/
def itemsOf : Json → List Json
  | .array items => items
  | other => [other]

/-- The values of an argument text, in order. -/
def normalize (text : List Char) : Except ParseError (List Json) :=
  let (body, dates) := protectDates (quoteKeys (replaceConstructors text))
  match Json.parse ('[' :: body ++ [']']) with
  | .ok value => .ok ((itemsOf value).map (restore dates))
  | .error detail => .error (.invalidArguments detail)

/-- The first value of an argument text. -/
def normalizeFirst (text : List Char) : Except ParseError (Option Json) :=
  (normalize text).map List.head?

end ShellQuery.Argument
