import ShellQuery.Error.Query
import ShellQuery.Execution.Result
import ShellQuery.Operation.Wire
import ShellQuery.Statement.Parse

/-!
# Reports

What is told about one statement of a script.  Its end says how far it came.  A
report shows the result of a statement that was executed, and the descriptor of
one that was not.
-/

namespace ShellQuery

/-- How far a statement came. -/
inductive StatementEnd where
  /-- It could not be read. -/
  | rejected (e : ParseError)
  /-- It was read, and nobody asked for more. -/
  | parsed (d : Descriptor)
  /-- It was read, but its execution failed. -/
  | failed (d : Descriptor) (e : QueryError)
  /-- It was executed. -/
  | executed (d : Descriptor) (r : ExecutionResult)

/-- What is told about a statement. -/
structure StatementReport where
  /-- The statement. -/
  statement : String
  /-- How far it came. -/
  ending : StatementEnd
  /-- The chained calls that were ignored. -/
  warnings : List Warning

namespace StatementEnd

/-- Whether nothing failed. -/
def success : StatementEnd → Bool
  | parsed _ | executed _ _ => true
  | rejected _ | failed _ _ => false

/-- The descriptor, if the statement could be read. -/
def descriptor? : StatementEnd → Option Descriptor
  | rejected _ => none
  | parsed d | failed d _ | executed d _ => some d

/-- The result, if the statement was executed. -/
def result? : StatementEnd → Option ExecutionResult
  | executed _ r => some r
  | _ => none

/-- The message, if anything failed. -/
def error? : StatementEnd → Option String
  | rejected e => some e.message
  | failed _ e => some e.message
  | _ => none

/-- What there is to show: a result, or else a descriptor. -/
def body : StatementEnd → JsonMembers
  | rejected _ => []
  | parsed d | failed d _ => [("descriptor", d.toJson)]
  | executed _ r => [("result", r.toJson)]

end StatementEnd

namespace StatementReport

/-- The report about a statement that is not going to be executed. -/
def ofOutcome (o : StatementOutcome) : StatementReport :=
  { statement := o.statement
    ending :=
      match o.result with
      | .ok d => .parsed d
      | .error e => .rejected e
    warnings := o.warnings }

/-- A report as an object. -/
def toJson (r : StatementReport) : Json :=
  .object <|
    [("statement", .string r.statement), ("success", .bool r.ending.success)]
      ++ r.ending.body
      ++ (r.ending.error?.map fun e => ("error", .string e)).toList
      ++ (if r.warnings.isEmpty then []
          else [("warnings", .array (r.warnings.map fun w => .string w.message))])

end StatementReport

/-- Whether every statement succeeded. -/
def allSucceeded (reports : List StatementReport) : Bool := reports.all (·.ending.success)

end ShellQuery
