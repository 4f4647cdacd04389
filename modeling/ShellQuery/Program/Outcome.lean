import ShellQuery.CommandLine.Scan
import ShellQuery.Error.Query

/-!
# Outcomes of the program

What the program writes and how it ends.  It ends well if every statement of the
script succeeded.  Errors of the program go to the other stream, and the requests
for an explanation and for the version are answered on the first one.  A program that
is stopped by a number that is no word reports no error of its own.
-/

namespace ShellQuery

/-- How the program ends. -/
inductive ProgramEnd where
  /-- It did what it was asked to do. -/
  | finished (allSucceeded : Bool)
  /-- It could not do it. -/
  | failed (e : QueryError)
  /-- It did not take the command line. -/
  | refused (e : CommandLine.ArgumentError)
  /-- It was stopped by a number that is no word. -/
  | overflow
  deriving DecidableEq, Repr

/-- What the program writes and how it ends. -/
structure ProgramOutcome where
  /-- What it writes. -/
  output : String
  /-- How it ends. -/
  ending : ProgramEnd
  deriving DecidableEq, Repr

namespace ProgramEnd

/-- The exit status. -/
def status : ProgramEnd → UInt8
  | finished true => 0
  | finished false => 1
  | failed _ => 2
  | refused e => if e.isRequest then 0 else 2
  | overflow => 101

/-- The line that reports an error. -/
def errorLine? : ProgramEnd → Option String
  | failed e => some ("Error: " ++ e.message)
  | _ => none

end ProgramEnd

end ShellQuery
