import ShellQuery.Text.Group
import ShellQuery.Text.Identifier

/-!
# Calls chained to a statement

After the base call come calls of cursor methods, each a dot, a name and
arguments in parentheses.  The chain ends at the first text that is no such call,
and what follows is passed over.  Arguments are kept as text.
-/

namespace ShellQuery

open ShellQuery.Text

/-- A call of a cursor method. -/
structure CursorCall where
  /-- The name of the method. -/
  method : String
  /-- The text of the arguments, trimmed. -/
  args : String
  deriving DecidableEq, Repr

namespace CursorCall

/-- Reads one call and the blanks after it. -/
def read? (text : List Char) : Option (CursorCall × List Char) := do
  let (name, rest) ← readIdent? (skipBlank (← expectChar? '.' text))
  let (args, rest) ← readGroup? '(' ')' (skipBlank rest)
  pure (⟨String.ofList name, String.ofList (trim args)⟩, skipBlank rest)

theorem read?_length_lt {text rest : List Char} {call : CursorCall}
    (h : read? text = some (call, rest)) : rest.length < text.length := by
  obtain ⟨dot, hd, h⟩ := Option.bind_eq_some_iff.1 h
  obtain ⟨⟨name, r⟩, hn, h⟩ := Option.bind_eq_some_iff.1 h
  obtain ⟨⟨args, r'⟩, ha, h⟩ := Option.bind_eq_some_iff.1 h
  simp only [Option.pure_def, Option.some.injEq, Prod.mk.injEq] at h
  have h1 := congrArg List.length (expectChar?_eq_some.1 hd)
  have h2 := readIdent?_length_lt hn
  have h3 := readGroup?_length_lt ha
  have h4 := skipBlank_length_le dot
  have h5 := skipBlank_length_le r
  have h6 := skipBlank_length_le r'
  simp only [List.length_cons] at h1
  rw [← h.2]
  omega

/-- Reads calls as long as there are any. -/
def readAll (text : List Char) : List CursorCall :=
  match _h : read? text with
  | none => []
  | some (call, rest) => call :: readAll rest
termination_by text.length
decreasing_by exact read?_length_lt ‹_›

/-- The chain at the start of a text. -/
def chain (text : List Char) : List CursorCall := readAll (skipBlank text)

end CursorCall

example : CursorCall.chain " .sort(\x7ba: 1\x7d)\n .limit( 5 ) tail".toList
    = [⟨"sort", "\x7ba: 1\x7d"⟩, ⟨"limit", "5"⟩] := by
  decide +kernel

end ShellQuery
