import ShellQuery.Execution.Report
import ShellQuery.Json.Reader

/-!
# Printing reports

A formatter writes a report on one line or on several.  A statement that asks for
it is always written on several lines.

With colours, text on several lines goes through a colouring step that reads it
again and writes it with an indent of two.  A text that nests too deeply to be
read again stays as it is.  The colours themselves are left to the terminal.
-/

namespace ShellQuery

/-- How reports are written. -/
structure Formatter where
  /-- Whether a report takes several lines. -/
  pretty : Bool := true
  /-- Whether text on several lines is coloured. -/
  colors : Bool := false
  /-- How many spaces a level is indented.  At least one is used. -/
  indent : Nat := 2
  deriving DecidableEq, Repr

namespace Formatter

/-- The indent of coloured text. -/
def colorIndent : Nat := 2

/-- Text after the colouring step. -/
def recolored (text : String) : String :=
  match Json.parse text.toList with
  | .ok value => Json.pretty colorIndent value
  | .error _ => text

/-- Writes a value on one line or on several. -/
def render (f : Formatter) (pretty : Bool) (value : Json) : String :=
  if pretty then
    let text := Json.pretty (max f.indent 1) value
    if f.colors then recolored text else text
  else Json.compact value

/-- Writes a value. -/
def value (f : Formatter) (v : Json) : String := f.render f.pretty v

/-- Writes a report. -/
def report (f : Formatter) (r : StatementReport) : String :=
  let asked := (r.ending.descriptor?.bind (·.options.pretty)) == some true
  f.render (f.pretty || asked) r.toJson

/-- Writes reports, each on lines of its own. -/
def reports (f : Formatter) (rs : List StatementReport) : String :=
  String.intercalate "\n" (rs.map f.report)

end Formatter

end ShellQuery
