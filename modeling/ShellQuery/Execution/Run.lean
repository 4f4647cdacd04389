import ShellQuery.Execution.Report

/-!
# Running scripts

An executor is an arbitrary function on a state.  A run hands it the descriptors
of the statements that can be read, each once and in order, and threads its state
through them.  A statement that fails does not stop the run.

`runScript` runs a script, and `parseOnly` reports on the same statements without
an executor.
-/

namespace ShellQuery

/-- Something that executes descriptors and keeps a state. -/
abbrev Executor (State : Type) :=
  State → Descriptor → State × Except QueryError ExecutionResult

namespace StatementEnd

/-- How a descriptor ends that an executor has answered. -/
def ofAnswer (d : Descriptor) : Except QueryError ExecutionResult → StatementEnd
  | .ok r => .executed d r
  | .error e => .failed d e

variable {d : Descriptor} {answer : Except QueryError ExecutionResult}

theorem descriptor?_ofAnswer : (ofAnswer d answer).descriptor? = some d := by
  cases answer <;> rfl

/-- The answer is a success if it is a result. -/
theorem success_ofAnswer : (ofAnswer d answer).success = answer.isOk := by
  cases answer <;> rfl

/-- A result is the result of the statement. -/
theorem result?_ofAnswer : (ofAnswer d answer).result? = answer.toOption := by
  cases answer <;> rfl

/-- An error has its message shown. -/
theorem error?_ofAnswer :
    (ofAnswer d answer).error? =
      match answer with
      | .ok _ => none
      | .error e => some e.message := by
  cases answer <;> rfl

end StatementEnd

variable {State : Type}

/-- Runs one statement. -/
def runOutcome (execute : Executor State) (state : State) (o : StatementOutcome) :
    State × StatementReport :=
  match o.result with
  | .error e => (state, ⟨o.statement, .rejected e, o.warnings⟩)
  | .ok d =>
      let (next, answer) := execute state d
      (next, ⟨o.statement, .ofAnswer d answer, o.warnings⟩)

/-- Runs statements in order. -/
def runOutcomes (execute : Executor State) : State → List StatementOutcome →
    State × List StatementReport
  | state, [] => (state, [])
  | state, o :: rest =>
      let (next, report) := runOutcome execute state o
      let (last, reports) := runOutcomes execute next rest
      (last, report :: reports)

/-- Runs a script. -/
def runScript (execute : Executor State) (state : State) (script : String) :
    State × List StatementReport :=
  runOutcomes execute state (parseScript script)

/-- Reports on the statements of a script without executing them. -/
def parseOnly (script : String) : List StatementReport :=
  (parseScript script).map StatementReport.ofOutcome

theorem runOutcomes_append (execute : Executor State) (state : State)
    (as bs : List StatementOutcome) :
    runOutcomes execute state (as ++ bs)
      = ((runOutcomes execute (runOutcomes execute state as).1 bs).1,
          (runOutcomes execute state as).2
            ++ (runOutcomes execute (runOutcomes execute state as).1 bs).2) := by
  induction as generalizing state with
  | nil => rfl
  | cons o rest ih => simp [runOutcomes, ih]

end ShellQuery
