import ShellQuery.Text.Blank

/-!
# String literals in shell text

A string literal is opened by one of three quotes and closed by the next quote
of the same kind.  A backslash takes the character after it into the literal,
whatever it is.

There are two views of this rule.  A `QuoteState` is where a scan stands, and
`QuoteState.step` takes it over one character.  `splitLiteral` cuts a text, of
which the opening quote is already gone, after the quote that closes the
literal.
-/

namespace ShellQuery.Text

/-- Whether a character opens a string literal. -/
def isQuote (c : Char) : Bool := c == '"' || c == '\'' || c == '\x60'

theorem eq_of_isQuote {c : Char} (h : isQuote c = true) : c = '"' ∨ c = '\'' ∨ c = '\x60' := by
  simpa [isQuote, or_assoc] using h

/-- A character of a class without quotes is no quote. -/
theorem isQuote_eq_false {p : Char → Bool} {c : Char} (h : p c = true)
    (hp : p '"' = false ∧ p '\'' = false ∧ p '\x60' = false) : isQuote c = false := by
  cases hq : isQuote c with
  | false => rfl
  | true =>
    rcases eq_of_isQuote hq with rfl | rfl | rfl
    · rw [hp.1] at h
      cases h
    · rw [hp.2.1] at h
      cases h
    · rw [hp.2.2] at h
      cases h

/-- No blank is a quote. -/
theorem isQuote_of_isBlank {c : Char} (h : isBlank c = true) : isQuote c = false :=
  isQuote_eq_false h (by decide)

/-! ## The state of a scan -/

/-- Where a scan stands. -/
inductive QuoteState where
  /-- Outside every string literal. -/
  | outside
  /-- Inside a literal with this delimiter.  `escaped` is set after a backslash. -/
  | inside (delimiter : Char) (escaped : Bool)
  deriving DecidableEq, Repr

namespace QuoteState

/-- The state after one more character. -/
def step : QuoteState → Char → QuoteState
  | outside, c => if isQuote c then inside c false else outside
  | inside q true, _ => inside q false
  | inside q false, c =>
      if c = '\\' then inside q true else if c = q then outside else inside q false

/-- Whether a character met in this state belongs to a string literal.  The
quotes themselves do. -/
def covers : QuoteState → Char → Bool
  | outside, c => isQuote c
  | inside _ _, _ => true

/-- The state after a text. -/
def run (state : QuoteState) (text : List Char) : QuoteState := text.foldl step state

/-- For each character of a text, whether it belongs to a string literal. -/
def marks : QuoteState → List Char → List Bool
  | _, [] => []
  | state, c :: rest => state.covers c :: marks (state.step c) rest

@[simp] theorem run_nil (state : QuoteState) : state.run [] = state := rfl

@[simp] theorem run_cons (state : QuoteState) (c : Char) (rest : List Char) :
    state.run (c :: rest) = (state.step c).run rest := rfl

theorem run_append (state : QuoteState) (a b : List Char) :
    state.run (a ++ b) = (state.run a).run b := by
  simp [run]

/-- A state is proper when the delimiter of an open literal is a quote.  A scan from
outside stays proper. -/
def Proper : QuoteState → Prop
  | outside => True
  | inside q _ => isQuote q = true

theorem proper_step {state : QuoteState} (h : state.Proper) (c : Char) :
    (state.step c).Proper := by
  cases state with
  | outside =>
    by_cases hc : isQuote c = true
    · rw [step.eq_1, if_pos hc]
      exact hc
    · rw [step.eq_1, if_neg hc]
      trivial
  | inside q escaped =>
    cases escaped with
    | true => exact h
    | false =>
      rw [step]
      split
      · exact h
      · split
        · trivial
        · exact h

end QuoteState

/-! ## One literal -/

/-- The rest of a literal up to and with the quote that closes it, and the text
after it.  An open literal runs to the end of the text. -/
def splitLiteral (q : Char) : List Char → List Char × List Char
  | [] => ([], [])
  | ['\\'] => (['\\'], [])
  | '\\' :: c :: rest =>
      let (body, after) := splitLiteral q rest
      ('\\' :: c :: body, after)
  | c :: rest =>
      if c = q then ([c], rest)
      else
        let (body, after) := splitLiteral q rest
        (c :: body, after)

theorem splitLiteral_append (q : Char) (text : List Char) :
    (splitLiteral q text).1 ++ (splitLiteral q text).2 = text := by
  fun_induction splitLiteral q text <;> simp_all

theorem splitLiteral_length_le (q : Char) (text : List Char) :
    (splitLiteral q text).2.length ≤ text.length := by
  have h := congrArg List.length (splitLiteral_append q text)
  simp only [List.length_append] at h
  omega

example : splitLiteral '"' "it's\\\" ok\" rest".toList =
    ("it's\\\" ok\"".toList, " rest".toList) := by decide

example : QuoteState.outside.marks "a'b'c".toList = [false, true, true, true, false] := by decide

end ShellQuery.Text
