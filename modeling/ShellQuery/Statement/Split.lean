import ShellQuery.Text.Blank
import ShellQuery.Text.Group

/-!
# Statements of a script

A script is cut at its semicolons.  A semicolon inside a string literal or inside
parentheses does not cut.  A closing parenthesis that closes nothing is passed
over, and an open literal or parenthesis runs to the end of the script.

`ScanState` is where the scan stands and `ScanState.cuts` says which semicolons
cut.  The statements are the trimmed pieces that are not empty.
-/

namespace ShellQuery

open ShellQuery.Text

/-- Where the scan of a script stands. -/
structure ScanState where
  /-- Whether it stands in a string literal. -/
  quote : QuoteState
  /-- How many parentheses are open. -/
  depth : Nat
  deriving DecidableEq, Repr

namespace ScanState

/-- The state at the start of a script. -/
def start : ScanState := ⟨.outside, 0⟩

/-- The state after one more character. -/
def step (s : ScanState) (c : Char) : ScanState :=
  ⟨s.quote.step c, if s.quote.covers c then s.depth else stepDepth '(' ')' s.depth c⟩

/-- Whether a character cuts the script in this state. -/
def cuts (s : ScanState) (c : Char) : Bool :=
  !s.quote.covers c && c == ';' && s.depth == 0

/-- The state after a text. -/
def run (s : ScanState) (text : List Char) : ScanState := text.foldl step s

@[simp] theorem run_nil (s : ScanState) : s.run [] = s := rfl

@[simp] theorem run_cons (s : ScanState) (c : Char) (rest : List Char) :
    s.run (c :: rest) = (s.step c).run rest := rfl

theorem run_append (s : ScanState) (a b : List Char) : s.run (a ++ b) = (s.run a).run b := by
  simp [run]

end ScanState

/-- Puts one more character in front of the first piece. -/
def consToPieces (c : Char) : List (List Char) → List (List Char)
  | [] => [[c]]
  | piece :: more => (c :: piece) :: more

/-- The pieces of a script between its cuts, empty ones too. -/
def scriptPieces (s : ScanState) : List Char → List (List Char)
  | [] => [[]]
  | c :: rest =>
      if s.cuts c then [] :: scriptPieces (s.step c) rest
      else consToPieces c (scriptPieces (s.step c) rest)

/-- The statements of a script, in order. -/
def splitChars (script : List Char) : List (List Char) :=
  ((scriptPieces .start script).map trim).filter fun piece => !piece.isEmpty

/-- The statements of a script, in order. -/
def splitScript (script : String) : List String :=
  (splitChars script.toList).map String.ofList

example : splitScript "db.a.find(\x7bs: ';'\x7d) ;; db.b.count(x;y)"
    = ["db.a.find(\x7bs: ';'\x7d)", "db.b.count(x;y)"] := by
  decide

end ShellQuery
