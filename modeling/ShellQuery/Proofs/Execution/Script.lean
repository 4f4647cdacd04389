import Mathlib.Data.List.Forall2
import Mathlib.Logic.Basic
import ShellQuery.Execution.Run
import ShellQuery.Proofs.Statement.Split

/-!
# Running scripts, statement by statement

A run is told here without a run.  The calls of a script are the descriptors of its
statements that can be read (`readable`), and the state before a statement is what
these calls leave when they are made one after the other (`Executor.after`).  So the
state that a statement meets does not depend on how the others ended, and an executor
that writes down its calls (`Executor.recording`) writes down just these.

A report of a run says what the report without an executor says, and how far the
statement came.  `Follows` and `Coherent` are these two facts about one report.  If the
statement can be read, the report tells the answer of the executor (`Tells`).

Two scripts joined by a semicolon run one after the other, if the first leaves no
literal and no parenthesis open.  This comes from the pieces at the seam
(`scriptPieces_seam`).
-/

namespace ShellQuery

open ShellQuery.Text

variable {State : Type}

/-! ## Calls -/

/-- The descriptors of the statements that can be read, in order. -/
def readable (outcomes : List StatementOutcome) : List Descriptor :=
  outcomes.filterMap fun o => o.result.toOption

/-- The state that calls leave. -/
def Executor.after (execute : Executor State) (state : State) (calls : List Descriptor) : State :=
  calls.foldl (fun s d => (execute s d).1) state

/-- An executor that also writes down what it is called on. -/
def Executor.recording (execute : Executor State) : Executor (State × List Descriptor) :=
  fun (state, calls) d =>
    let (next, answer) := execute state d
    ((next, calls ++ [d]), answer)

theorem readable_cons_error {o : StatementOutcome} {e : ParseError} (h : o.result = .error e)
    (rest : List StatementOutcome) : readable (o :: rest) = readable rest := by
  simp [readable, h, Except.toOption]

theorem readable_cons_ok {o : StatementOutcome} {d : Descriptor} (h : o.result = .ok d)
    (rest : List StatementOutcome) : readable (o :: rest) = d :: readable rest := by
  simp [readable, h, Except.toOption]

theorem runOutcome_error {o : StatementOutcome} {e : ParseError} (h : o.result = .error e)
    (execute : Executor State) (state : State) :
    runOutcome execute state o = (state, ⟨o.statement, .rejected e, o.warnings⟩) := by
  rw [runOutcome, h]

theorem runOutcome_ok {o : StatementOutcome} {d : Descriptor} (h : o.result = .ok d)
    (execute : Executor State) (state : State) :
    runOutcome execute state o = ((execute state d).1,
      ⟨o.statement, .ofAnswer d (execute state d).2, o.warnings⟩) := by
  rw [runOutcome, h]

/-- One statement moves the state by its call, if it can be read. -/
theorem fst_runOutcome (execute : Executor State) (state : State) (o : StatementOutcome) :
    (runOutcome execute state o).1 = execute.after state (readable [o]) := by
  cases h : o.result with
  | error e => rw [runOutcome_error h, readable_cons_error h]; rfl
  | ok d => rw [runOutcome_ok h, readable_cons_ok h]; rfl

theorem readable_append (as bs : List StatementOutcome) :
    readable (as ++ bs) = readable as ++ readable bs := List.filterMap_append

theorem Executor.after_append (execute : Executor State) (state : State)
    (as bs : List Descriptor) :
    execute.after state (as ++ bs) = execute.after (execute.after state as) bs :=
  List.foldl_append

/-- A run leaves the state that its calls leave. -/
theorem fst_runOutcomes (execute : Executor State) (state : State)
    (outcomes : List StatementOutcome) :
    (runOutcomes execute state outcomes).1 = execute.after state (readable outcomes) := by
  induction outcomes generalizing state with
  | nil => rfl
  | cons o rest ih =>
    calc (runOutcomes execute state (o :: rest)).1
        = execute.after (runOutcome execute state o).1 (readable rest) := ih _
      _ = execute.after (execute.after state (readable [o])) (readable rest) := by
          rw [fst_runOutcome]
      _ = execute.after state (readable (o :: rest)) := by
          rw [← Executor.after_append, ← readable_append, List.singleton_append]

/-- The report about a statement is that of the statement alone, in the state that the
calls before it leave. -/
theorem getElem?_runOutcomes (execute : Executor State) (state : State)
    (outcomes : List StatementOutcome) (i : Nat) :
    (runOutcomes execute state outcomes).2[i]? = outcomes[i]?.map fun o =>
      (runOutcome execute (execute.after state (readable (outcomes.take i))) o).2 := by
  induction outcomes generalizing state i with
  | nil => rfl
  | cons o rest ih =>
    cases i with
    | zero => rfl
    | succ i =>
      have hs : execute.after (runOutcome execute state o).1 (readable (rest.take i))
          = execute.after state (readable ((o :: rest).take (i + 1))) := by
        rw [fst_runOutcome, ← Executor.after_append, ← readable_append, List.singleton_append,
          List.take_succ_cons]
      rw [List.getElem?_cons_succ, ← hs]
      exact ih _ i

theorem snd_runOutcomes (execute : Executor State) (state : State)
    (outcomes : List StatementOutcome) :
    (runOutcomes execute state outcomes).2 = outcomes.mapIdx fun i o =>
      (runOutcome execute (execute.after state (readable (outcomes.take i))) o).2 := by
  apply List.ext_getElem?
  intro i
  rw [getElem?_runOutcomes, List.getElem?_mapIdx]

/-- A recording executor answers as the executor does and writes down the calls. -/
theorem runOutcomes_recording (execute : Executor State) (state : State)
    (calls : List Descriptor) (outcomes : List StatementOutcome) :
    runOutcomes execute.recording (state, calls) outcomes
      = (((runOutcomes execute state outcomes).1, calls ++ readable outcomes),
          (runOutcomes execute state outcomes).2) := by
  induction outcomes generalizing state calls with
  | nil => simp [runOutcomes, readable]
  | cons o rest ih =>
    cases h : o.result with
    | error e =>
      simp only [runOutcomes, runOutcome_error h, readable_cons_error h, ih]
    | ok d =>
      simp only [runOutcomes, runOutcome_ok h, readable_cons_ok h, Executor.recording, ih,
        List.append_assoc, List.singleton_append]

/-! ## Reports -/

namespace StatementReport

/-- A report of a run follows a report without an executor: it is about the same
statement, and it is no success if that is none. -/
structure Follows (r parsed : StatementReport) : Prop where
  statement : r.statement = parsed.statement
  descriptor : r.ending.descriptor? = parsed.ending.descriptor?
  warnings : r.warnings = parsed.warnings
  success : r.ending.success = true → parsed.ending.success = true

/-- A report says in three ways whether its statement was executed. -/
structure Coherent (r : StatementReport) : Prop where
  success_iff_error : r.ending.success = true ↔ r.ending.error? = none
  success_iff_result : r.ending.success = true ↔ r.ending.result?.isSome = true

/-- A report tells the answer of an executor: its result, or the message of its error. -/
inductive Tells (r : StatementReport) : Except QueryError ExecutionResult → Prop where
  /-- The result, and no error. -/
  | result {x : ExecutionResult} (result : r.ending.result? = some x)
      (error : r.ending.error? = none) : Tells r (.ok x)
  /-- The message of the error, and no result. -/
  | error {e : QueryError} (result : r.ending.result? = none)
      (error : r.ending.error? = some e.message) : Tells r (.error e)

theorem coherent_rejected (statement : String) (e : ParseError) (warnings : List Warning) :
    Coherent ⟨statement, .rejected e, warnings⟩ := by
  constructor <;> simp [StatementEnd.success, StatementEnd.error?, StatementEnd.result?]

theorem coherent_ofAnswer (statement : String) (d : Descriptor)
    (answer : Except QueryError ExecutionResult) (warnings : List Warning) :
    Coherent ⟨statement, .ofAnswer d answer, warnings⟩ := by
  constructor
  · rw [StatementEnd.success_ofAnswer, StatementEnd.error?_ofAnswer]
    cases answer <;> simp [Except.toBool]
  · rw [StatementEnd.success_ofAnswer, StatementEnd.result?_ofAnswer]
    cases answer <;> simp [Except.toBool, Except.toOption]

theorem coherent_runOutcome (execute : Executor State) (state : State) (o : StatementOutcome) :
    (runOutcome execute state o).2.Coherent := by
  cases h : o.result with
  | error e => rw [runOutcome_error h]; exact coherent_rejected _ _ _
  | ok d => rw [runOutcome_ok h]; exact coherent_ofAnswer _ _ _ _

theorem follows_runOutcome (execute : Executor State) (state : State) (o : StatementOutcome) :
    (runOutcome execute state o).2.Follows (ofOutcome o) := by
  cases h : o.result with
  | error e =>
    rw [runOutcome_error h, ofOutcome, h]
    exact ⟨rfl, rfl, rfl, id⟩
  | ok d =>
    rw [runOutcome_ok h, ofOutcome, h]
    exact ⟨rfl, StatementEnd.descriptor?_ofAnswer, rfl, fun _ => rfl⟩

theorem tells_runOutcome {o : StatementOutcome} {d : Descriptor} (h : o.result = .ok d)
    (execute : Executor State) (state : State) :
    (runOutcome execute state o).2.Tells (execute state d).2 := by
  rw [runOutcome_ok h]
  cases (execute state d).2 with
  | ok x => exact .result rfl rfl
  | error e => exact .error rfl rfl

end StatementReport

/-- The reports of a run follow the reports without an executor, one by one. -/
theorem forall₂_runOutcomes (execute : Executor State) (state : State)
    (outcomes : List StatementOutcome) :
    List.Forall₂ (fun r parsed => r.Follows parsed ∧ r.Coherent)
      (runOutcomes execute state outcomes).2 (outcomes.map StatementReport.ofOutcome) := by
  induction outcomes generalizing state with
  | nil => exact .nil
  | cons o rest ih =>
    have hfollows := StatementReport.follows_runOutcome execute state o
    have hcoherent := StatementReport.coherent_runOutcome execute state o
    exact .cons ⟨hfollows, hcoherent⟩ (ih _)

theorem map_statement_runOutcomes (execute : Executor State) (state : State)
    (outcomes : List StatementOutcome) :
    (runOutcomes execute state outcomes).2.map StatementReport.statement
      = outcomes.map StatementOutcome.statement := by
  induction outcomes generalizing state with
  | nil => rfl
  | cons o rest ih =>
    have hfollows := StatementReport.follows_runOutcome execute state o
    exact congrArg₂ List.cons hfollows.statement (ih _)

theorem statement_of (statement : String) :
    (StatementOutcome.of statement).statement = statement := by
  rw [StatementOutcome.of]
  cases parseStatement statement <;> rfl

theorem map_statement_parseScript (script : String) :
    (parseScript script).map StatementOutcome.statement = splitScript script := by
  rw [parseScript, List.map_map]
  exact (List.map_congr_left fun s _ => statement_of s).trans (List.map_id _)

/-! ## The seam of two scripts -/

theorem consToPieces_append (c : Char) {pieces : List (List Char)} (h : pieces ≠ [])
    (more : List (List Char)) :
    consToPieces c (pieces ++ more) = consToPieces c pieces ++ more := by
  cases pieces with
  | nil => exact absurd rfl h
  | cons piece rest => rfl

/-- A semicolon cuts behind a text that leaves the scan at its start, whatever cuts there
are in the text. -/
theorem scriptPieces_seam {s : ScanState} {a : List Char} (h : s.run a = .start) (b : List Char) :
    scriptPieces s (a ++ ';' :: b) = scriptPieces s a ++ scriptPieces .start b := by
  induction a generalizing s with
  | nil =>
    cases h
    rfl
  | cons c rest ih =>
    have hp := ih (s := s.step c) h
    rw [List.cons_append, scriptPieces, scriptPieces, hp]
    split
    · rfl
    · exact consToPieces_append c (scriptPieces_ne_nil _ _) _

theorem splitScript_seam {a : String} (h : ScanState.start.run a.toList = .start) (b : String) :
    splitScript (a ++ ";" ++ b) = splitScript a ++ splitScript b := by
  have hl : (a ++ ";" ++ b).toList = a.toList ++ ';' :: b.toList := by
    simp [String.toList_append]
  rw [splitScript, splitChars, hl, scriptPieces_seam h, List.map_append, List.filter_append,
    List.map_append]
  rfl

/-- Two scripts joined by a semicolon run one after the other. -/
theorem runScript_seam {a : String} (h : ScanState.start.run a.toList = .start) (b : String)
    (execute : Executor State) (state : State) :
    runScript execute state (a ++ ";" ++ b)
      = ((runScript execute (runScript execute state a).1 b).1,
          (runScript execute state a).2
            ++ (runScript execute (runScript execute state a).1 b).2) := by
  have hp : parseScript (a ++ ";" ++ b) = parseScript a ++ parseScript b := by
    rw [parseScript, splitScript_seam h, List.map_append]
    rfl
  rw [runScript, hp, runOutcomes_append]
  rfl

/-! ## Runs -/

/-- The statements of a script run one after the other, each on its own.  There is one
report for each statement, in order.  The executor is called on the descriptors of the
statements that can be read, once each and in order, and a report is that of its
statement alone, in the state that the calls before leave.  Reports follow those without
an executor, and they are coherent.  The report about a statement that can be read tells
the answer of the executor.  Scripts that are joined run one after the other. -/
theorem runScript_sequential (execute : Executor State) (state : State) (script : String) :
    (runScript execute state script).2.map StatementReport.statement = splitScript script
    ∧ runScript execute.recording (state, []) script
        = (((runScript execute state script).1, readable (parseScript script)),
            (runScript execute state script).2)
    ∧ runScript execute state script
        = (execute.after state (readable (parseScript script)),
            (parseScript script).mapIdx fun i o =>
              (runOutcome execute
                (execute.after state (readable ((parseScript script).take i))) o).2)
    ∧ List.Forall₂ (fun r parsed => r.Follows parsed ∧ r.Coherent)
        (runScript execute state script).2 (parseOnly script)
    ∧ (∀ (i : Nat) (o : StatementOutcome) (d : Descriptor), (parseScript script)[i]? = some o →
        o.result = .ok d →
          ∃ r, (runScript execute state script).2[i]? = some r
            ∧ r.Tells (execute
              (execute.after state (readable ((parseScript script).take i))) d).2)
    ∧ ∀ a b : String, ScanState.start.run a.toList = .start →
        runScript execute state (a ++ ";" ++ b)
          = ((runScript execute (runScript execute state a).1 b).1,
              (runScript execute state a).2
                ++ (runScript execute (runScript execute state a).1 b).2) := by
  refine ⟨?_, ?_, ?_, forall₂_runOutcomes _ _ _, fun i o d ho hd => ?_,
    fun a b h => runScript_seam h b execute state⟩
  · rw [runScript, map_statement_runOutcomes, map_statement_parseScript]
  · exact runOutcomes_recording execute state [] (parseScript script)
  · exact Prod.ext (fst_runOutcomes _ _ _) (snd_runOutcomes _ _ _)
  · refine ⟨_, ?_, StatementReport.tells_runOutcome hd execute _⟩
    rw [runScript, getElem?_runOutcomes, ho, Option.map_some]

/-- The executor that counts its calls. -/
def callCounter : Executor Nat := fun n _ => (n + 1, .ok {})

/-- The first statement cannot be read, the semicolon in its arguments does not cut, and
two calls are left. -/
theorem runScript_sequential_counter :
    ScanState.start.run "db.a.drop(';'); db.b.find()".toList = .start
      ∧ runScript callCounter 0 ("db.a.drop(';'); db.b.find()" ++ ";" ++ "db.c.find()")
        = ((runScript callCounter (runScript callCounter 0 "db.a.drop(';'); db.b.find()").1
              "db.c.find()").1,
            (runScript callCounter 0 "db.a.drop(';'); db.b.find()").2
              ++ (runScript callCounter (runScript callCounter 0 "db.a.drop(';'); db.b.find()").1
                "db.c.find()").2)
      ∧ (runScript callCounter 0
            ("db.a.drop(';'); db.b.find()" ++ ";" ++ "db.c.find()")).1 = 2 := by
  have h : ScanState.start.run "db.a.drop(';'); db.b.find()".toList = .start := by decide
  have hseam := (runScript_sequential callCounter 0 "").2.2.2.2.2 _ "db.c.find()" h
  refine ⟨h, hseam, ?_⟩
  decide +kernel

end ShellQuery
