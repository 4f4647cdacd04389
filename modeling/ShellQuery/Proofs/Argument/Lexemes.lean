import ShellQuery.Proofs.Argument.Settled
import ShellQuery.Proofs.Text.Offset

/-!
# Two scans of literals

There are two scans that know literals.  `QuoteState` goes over a text from its start, and
splitting a script and closing a group rest on it.  `Offset.literalEnd?` looks for the end of
one literal and is asked at its opening quote, and quoting keys and taking out dates rest on
that one.

`scansAgree` says that they are in step.  Where the first scan opens a literal, the second
gives the byte where the first one leaves it.  So the literals that the quoting of keys
meets, the `lexemes` of the text that are literals, hold just the characters that the first
scan marks.  The strings of JSON end where either scan ends them.
-/

namespace ShellQuery.Text.QuoteState

/-! ## The scan over one literal -/

variable {q : Char} {text : List Char}

/-- The scan is inside up to the last character of a literal. -/
theorem inside_of_splitLiteral (hq : q ≠ '\\') {front back : List Char}
    (h : (splitLiteral q text).1 = front ++ back) (hback : back ≠ []) :
    ∃ escaped, (inside q false).run front = inside q escaped := by
  rcases exists_inside_or_closed (q := q) front with hin | ⟨body, after, hbody, rfl⟩
  · exact hin
  · -- a literal that is closed in front of its end is a shorter literal
    have htext : text = body ++ (after ++ back ++ (splitLiteral q text).2) := by
      rw [← List.append_assoc, ← List.append_assoc, ← h, splitLiteral_append]
    rw [htext, splitLiteral_of_isLiteralBody hq hbody] at h
    have hnil : after ++ back = [] :=
      List.self_eq_append_right.1 (h.trans (List.append_assoc ..))
    exact absurd (List.append_eq_nil_iff.1 hnil).2 hback

/-- Behind a literal the scan is outside, unless the literal is left open. -/
theorem run_splitLiteral (hq : q ≠ '\\') (text : List Char) :
    (inside q false).run (splitLiteral q text).1 = outside
      ∨ (splitLiteral q text).2 = [] ∧
        ∃ escaped, (inside q false).run (splitLiteral q text).1 = inside q escaped := by
  rcases Argument.splitLiteral_cases hq text with hbody | ⟨hs, hopen⟩
  · exact .inl (run_isLiteralBody hq hbody)
  · rw [hs]
    rcases exists_inside_or_closed (q := q) text with hin | ⟨body, after, hbody, htext⟩
    · exact .inr ⟨rfl, hin⟩
    · exact absurd htext (hopen body after hbody)

/-! ## Marks -/

theorem marks_append (state : QuoteState) (front back : List Char) :
    state.marks (front ++ back) = state.marks front ++ (state.run front).marks back := by
  induction front generalizing state with
  | nil => rfl
  | cons c front ih => rw [List.cons_append, marks, ih, marks, run_cons, List.cons_append]

/-- All characters are marked while the scan is inside. -/
theorem marks_of_inside {state : QuoteState}
    (h : ∀ front back, text = front ++ back → back ≠ [] →
      ∃ escaped, state.run front = inside q escaped) :
    state.marks text = text.map fun _ => true := by
  induction text generalizing state with
  | nil => rfl
  | cons c text ih =>
    obtain ⟨escaped, hstate⟩ := h [] (c :: text) rfl nofun
    rw [run_nil] at hstate
    have hrest := ih fun front back htext hback =>
      h (c :: front) back (by rw [htext, List.cons_append]) hback
    rw [marks, List.map_cons, hrest, hstate, covers]

/-- No character is marked where there are no quotes. -/
theorem marks_of_noQuote (h : ∀ c ∈ text, isQuote c = false) :
    outside.marks text = text.map fun _ => false := by
  induction text with
  | nil => rfl
  | cons c text ih =>
    rw [List.forall_mem_cons] at h
    rw [marks, List.map_cons, covers, h.1, step, if_neg (by simp [h.1]), ih h.2]

/-- A literal is marked from its opening quote on. -/
theorem marks_literal (hq : isQuote q = true) (text : List Char) :
    outside.marks (q :: text) = (q :: (splitLiteral q text).1).map (fun _ => true)
      ++ outside.marks (splitLiteral q text).2 := by
  have hb := ne_backslash_of_isQuote hq
  have hinside : (inside q false).marks (splitLiteral q text).1
      = (splitLiteral q text).1.map fun _ => true :=
    marks_of_inside fun _ _ h hback => inside_of_splitLiteral hb h hback
  have hsplit := marks_append (inside q false) (splitLiteral q text).1 (splitLiteral q text).2
  rw [splitLiteral_append, hinside] at hsplit
  rw [marks, covers, hq, step, if_pos hq, hsplit, List.map_cons, List.cons_append]
  rcases run_splitLiteral hb text with hrun | ⟨hnil, -⟩
  · rw [hrun]
  · rw [hnil]
    rfl

end ShellQuery.Text.QuoteState

namespace ShellQuery.Offset

open ShellQuery.Text
open ShellQuery.Argument (doubleQuoted isKeyPlace quoteKeys quoteKeysFrom)

/-! ## The scan at a byte -/

/-- The state of the scan in front of a byte. -/
def stateAt? (text : List Char) (i : Nat) : Option QuoteState :=
  (sliceTo? text i).map QuoteState.outside.run

/-- The scan opens a literal with the quote at a byte. -/
structure Opens (q : Char) (text : List Char) (start : Nat) : Prop where
  isQuote : isQuote q = true
  outside : stateAt? text start = some .outside
  quote : ∃ rest, Place text start (q :: rest)

/-- The scan leaves the literal at a byte with the last character in front of another byte,
or stays inside up to the end of the text. -/
structure LeavesAt (q : Char) (text : List Char) (start stop : Nat) : Prop where
  lt : start < stop
  inside : ∀ i state, start < i → i < stop → stateAt? text i = some state →
    ∃ escaped, state = .inside q escaped
  left : stateAt? text stop = some .outside
    ∨ stop = utf8Length text ∧ ∃ escaped, stateAt? text stop = some (.inside q escaped)

theorem stateAt?_eq_some_iff {text : List Char} {i : Nat} {state : QuoteState} :
    stateAt? text i = some state
      ↔ ∃ front rest, text = front ++ rest ∧ utf8Length front = i
        ∧ QuoteState.outside.run front = state := by
  rw [stateAt?, Option.map_eq_some_iff]
  constructor
  · rintro ⟨front, hfront, hstate⟩
    obtain ⟨rest, htext, hi⟩ := sliceTo?_eq_some_iff.1 hfront
    exact ⟨front, rest, htext, hi, hstate⟩
  · rintro ⟨front, rest, htext, hi, hstate⟩
    exact ⟨front, sliceTo?_eq_some_iff.2 ⟨rest, htext, hi⟩, hstate⟩

theorem opens_iff {q : Char} {text : List Char} {start : Nat} :
    Opens q text start
      ↔ ∃ front rest, text = front ++ q :: rest ∧ utf8Length front = start
        ∧ QuoteState.outside.run front = .outside ∧ isQuote q = true := by
  constructor
  · rintro ⟨hq, hout, rest, front, htext, hstart⟩
    obtain ⟨front', rest', htext', hstart', hrun⟩ := stateAt?_eq_some_iff.1 hout
    have hfront : sliceTo? text start = some front :=
      sliceTo?_eq_some_iff.2 ⟨_, htext, hstart⟩
    have hfront' : sliceTo? text start = some front' :=
      sliceTo?_eq_some_iff.2 ⟨_, htext', hstart'⟩
    obtain rfl : front = front' := Option.some.inj (hfront.symm.trans hfront')
    exact ⟨front, rest, htext, hstart, hrun, hq⟩
  · rintro ⟨front, rest, htext, hstart, hrun, hq⟩
    exact ⟨hq, stateAt?_eq_some_iff.2 ⟨front, _, htext, hstart, hrun⟩, rest, front, htext,
      hstart⟩

theorem run_opened {q : Char} {front : List Char} (hq : isQuote q = true)
    (hrun : QuoteState.outside.run front = .outside) (text : List Char) :
    QuoteState.outside.run (front ++ q :: text) = (QuoteState.inside q false).run text := by
  rw [QuoteState.run_append, hrun, QuoteState.run_cons, QuoteState.step, if_pos hq]

/-- Of two texts that start the same text, the longer one starts with the other. -/
theorem exists_eq_append_of_lt {front front' rest rest' : List Char}
    (h : front ++ rest = front' ++ rest') (hlt : utf8Length front < utf8Length front') :
    ∃ part, front' = front ++ part ∧ rest = part ++ rest' ∧ part ≠ [] := by
  rcases List.append_eq_append_iff.1 h with ⟨part, rfl, rfl⟩ | ⟨part, rfl, -⟩
  · refine ⟨part, rfl, rfl, ?_⟩
    rintro rfl
    simp at hlt
  · rw [utf8Length_append] at hlt
    omega

/-- A text with a quote, cut behind the literal. -/
theorem append_splitLiteral (front : List Char) (q : Char) (rest : List Char) :
    front ++ q :: rest = (front ++ q :: (splitLiteral q rest).1) ++ (splitLiteral q rest).2 := by
  rw [List.append_assoc, List.cons_append, splitLiteral_append]

/-- The scan is inside between the two ends of a literal. -/
theorem exists_inside_of_stateAt? {q : Char} {front rest : List Char} {i : Nat}
    {state : QuoteState} (hq : isQuote q = true) (hrun : QuoteState.outside.run front = .outside)
    (hstart : utf8Length front < i)
    (hi : i < utf8Length (front ++ q :: (splitLiteral q rest).1))
    (hstate : stateAt? (front ++ q :: rest) i = some state) :
    ∃ escaped, state = .inside q escaped := by
  -- the text in front of the byte goes over the quote and into the literal
  obtain ⟨upTo, more, hupTo, rfl, rfl⟩ := stateAt?_eq_some_iff.1 hstate
  obtain ⟨part, rfl, hpart, hne⟩ := exists_eq_append_of_lt hupTo hstart
  obtain ⟨c, part, rfl⟩ := List.exists_cons_of_ne_nil hne
  obtain ⟨rfl, -⟩ := List.cons.inj (hpart.trans (List.cons_append ..))
  obtain ⟨back, hback, -, hne'⟩ :=
    exists_eq_append_of_lt (hupTo.symm.trans (append_splitLiteral front q rest)) hi
  have hbody : (splitLiteral q rest).1 = part ++ back := by simpa using hback
  rw [run_opened hq hrun]
  exact QuoteState.inside_of_splitLiteral (ne_backslash_of_isQuote hq) hbody hne'

/-- Behind a literal the scan is outside, or the text has come to its end. -/
theorem stateAt?_splitLiteral {q : Char} {front : List Char} (hq : isQuote q = true)
    (hrun : QuoteState.outside.run front = .outside) (rest : List Char) :
    stateAt? (front ++ q :: rest) (utf8Length (front ++ q :: (splitLiteral q rest).1))
        = some .outside
      ∨ utf8Length (front ++ q :: (splitLiteral q rest).1) = utf8Length (front ++ q :: rest)
        ∧ ∃ escaped, stateAt? (front ++ q :: rest)
          (utf8Length (front ++ q :: (splitLiteral q rest).1)) = some (.inside q escaped) := by
  have hstate : stateAt? (front ++ q :: rest) (utf8Length (front ++ q :: (splitLiteral q rest).1))
      = some ((QuoteState.inside q false).run (splitLiteral q rest).1) :=
    stateAt?_eq_some_iff.2 ⟨_, _, append_splitLiteral front q rest, rfl, run_opened hq hrun _⟩
  rw [hstate]
  rcases QuoteState.run_splitLiteral (ne_backslash_of_isQuote hq) rest with
    hout | ⟨hnil, escaped, hin⟩
  · exact .inl (congrArg some hout)
  · refine .inr ⟨?_, escaped, congrArg some hin⟩
    rw [append_splitLiteral front q rest, hnil, List.append_nil]

/-- Where the scan opens a literal, the search for its end gives the byte where the scan
leaves it. -/
theorem leavesAt_literalEnd {q : Char} {text : List Char} {start : Nat}
    (h : Opens q text start) :
    ∃ stop, literalEnd? q text start = some stop ∧ LeavesAt q text start stop := by
  obtain ⟨front, rest, rfl, rfl, hrun, hq⟩ := opens_iff.1 h
  have hplace : Place (front ++ q :: rest) (utf8Length front) (q :: rest) := ⟨front, rfl, rfl⟩
  refine ⟨utf8Length (front ++ q :: (splitLiteral q rest).1), ?_, ?_, ?_, ?_⟩
  · rw [literalEnd?_eq hplace, utf8Length_append]
  · have := q.utf8Size_pos
    rw [utf8Length_append, utf8Length_cons]
    omega
  · exact fun i state hstart hi hstate => exists_inside_of_stateAt? hq hrun hstart hi hstate
  · exact stateAt?_splitLiteral hq hrun rest

/-- A string of JSON is cut off as one literal. -/
theorem literalEnd?_of_isStringBody {text body : List Char} {start stop : Nat}
    (h : slice? text start stop = some ('"' :: body)) (hbody : Json.IsStringBody body) :
    literalEnd? '"' text start = some stop := by
  obtain ⟨⟨rest, hplace⟩, rfl⟩ := slice?_eq_some_iff.1 h
  rw [List.cons_append] at hplace
  rw [literalEnd?_eq hplace,
    splitLiteral_of_isLiteralBody (by decide) (Argument.isLiteralBody_of_isStringBody hbody)]

end ShellQuery.Offset

namespace ShellQuery.Argument

open ShellQuery.Text

/-! ## Lexemes -/

/-- What the quoting of keys takes off a text in one step. -/
inductive Lexeme where
  /-- A literal: its opening quote, and what follows it up to and with the closing quote. -/
  | literal (q : Char) (body : List Char)
  /-- An identifier. -/
  | word (ident : List Char)
  /-- Any other character. -/
  | char (c : Char)
  deriving DecidableEq, Repr

/-- The characters of a lexeme. -/
def Lexeme.text : Lexeme → List Char
  | literal q body => q :: body
  | word ident => ident
  | char c => [c]

/-- For each character of a lexeme, whether it belongs to a literal. -/
def Lexeme.marks : Lexeme → List Bool
  | literal q body => (q :: body).map fun _ => true
  | word ident => ident.map fun _ => false
  | char _ => [false]

/-- The text of lexemes. -/
def joinLexemes (lexemes : List Lexeme) : List Char := lexemes.flatMap Lexeme.text

/-- The lexemes of a text. -/
def lexemes : List Char → List Lexeme
  | [] => []
  | c :: rest =>
      if isQuote c then
        .literal c (splitLiteral c rest).1 :: lexemes (splitLiteral c rest).2
      else if isIdentStart c then
        .word (c :: rest.takeWhile isIdentChar) :: lexemes (rest.dropWhile isIdentChar)
      else .char c :: lexemes rest
termination_by text => text.length
decreasing_by
  · have := splitLiteral_length_le c rest
    simp only [List.length_cons]
    omega
  · have := (List.dropWhile_sublist isIdentChar (l := rest)).length_le
    simp only [List.length_cons]
    omega
  · simp

/-- Lexemes with the keys and the literals in double quotes.  `last` is the last character
in front of them that is not blank. -/
def quoteLexemes (last : Option Char) : List Lexeme → List Char
  | [] => []
  | .literal q body :: rest => doubleQuoted q body ++ quoteLexemes (some '"') rest
  | .word ident :: rest =>
      (if isKeyPlace last (joinLexemes rest) then '"' :: ident ++ ['"'] else ident)
        ++ quoteLexemes ident.getLast? rest
  | .char c :: rest => c :: quoteLexemes (if isBlank c then last else some c) rest

theorem joinLexemes_cons (l : Lexeme) (rest : List Lexeme) :
    joinLexemes (l :: rest) = l.text ++ joinLexemes rest := List.flatMap_cons

theorem joinLexemes_lexemes (text : List Char) : joinLexemes (lexemes text) = text := by
  fun_induction lexemes text with
  | case1 => rfl
  | case2 c rest _ ih =>
    rw [joinLexemes_cons, ih, Lexeme.text, List.cons_append, splitLiteral_append]
  | case3 c rest _ _ ih =>
    rw [joinLexemes_cons, ih, Lexeme.text, List.cons_append, List.takeWhile_append_dropWhile]
  | case4 c rest _ _ ih => rw [joinLexemes_cons, ih, Lexeme.text, List.singleton_append]

/-- Quoting the keys of a text quotes its lexemes one by one. -/
theorem quoteLexemes_lexemes (last : Option Char) (text : List Char) :
    quoteLexemes last (lexemes text) = quoteKeysFrom last text := by
  fun_induction quoteKeysFrom last text with
  | case1 => rw [lexemes, quoteLexemes]
  | case2 last c rest hq ih => rw [lexemes, if_pos hq, quoteLexemes, ih]
  | case3 last c rest hq hi ident after ih =>
    rw [lexemes, if_neg hq, if_pos hi, quoteLexemes, ih, joinLexemes_lexemes]
  | case4 last c rest hq hi ih =>
    rw [dite_eq_ite] at ih
    rw [lexemes, if_neg hq, if_neg hi, quoteLexemes, ih]

theorem noQuote_of_ident {c : Char} (hc : isIdentStart c = true) (rest : List Char) :
    ∀ d ∈ c :: rest.takeWhile isIdentChar, isQuote d = false := by
  refine List.forall_mem_cons.2 ⟨isQuote_eq_false hc (by decide), fun d hd => ?_⟩
  exact isQuote_eq_false (List.all_eq_true.1 List.all_takeWhile d hd) (by decide)

/-- The marks of the lexemes are those of the scan. -/
theorem marks_lexemes (text : List Char) :
    (lexemes text).flatMap Lexeme.marks = QuoteState.outside.marks text := by
  fun_induction lexemes text with
  | case1 => rfl
  | case2 c rest hq ih =>
    rw [List.flatMap_cons, ih, Lexeme.marks, QuoteState.marks_literal hq]
  | case3 c rest hq hi ih =>
    have hno := noQuote_of_ident hi rest
    have hsplit := QuoteState.marks_append .outside (c :: rest.takeWhile isIdentChar)
      (rest.dropWhile isIdentChar)
    have hrun := QuoteState.run_append_of_noQuote hno []
    rw [List.append_nil, QuoteState.run_nil] at hrun
    rw [List.cons_append, List.takeWhile_append_dropWhile, hrun,
      QuoteState.marks_of_noQuote hno] at hsplit
    rw [List.flatMap_cons, ih, Lexeme.marks, hsplit]
  | case4 c rest hq _ ih =>
    rw [List.flatMap_cons, ih, Lexeme.marks, QuoteState.marks, QuoteState.covers,
      QuoteState.step, if_neg hq, List.singleton_append]
    simpa using hq

/-- In front of a lexeme the scan is outside. -/
theorem run_joinLexemes {text : List Char} {front back : List Lexeme} {l : Lexeme}
    (h : lexemes text = front ++ l :: back) :
    QuoteState.outside.run (joinLexemes front) = .outside := by
  fun_induction lexemes text generalizing front with
  | case1 => simp at h
  | case2 c rest hq ih =>
    cases front with
    | nil => rfl
    | cons first front =>
      obtain ⟨rfl, hrest⟩ := List.cons.inj h
      -- the literal is closed, as there is more text behind it
      have hrun : QuoteState.outside.run (c :: (splitLiteral c rest).1) = .outside := by
        rcases QuoteState.run_splitLiteral (ne_backslash_of_isQuote hq) rest with hrun | ⟨hnil, -⟩
        · rw [QuoteState.run_cons, QuoteState.step, if_pos hq, hrun]
        · rw [hnil, lexemes] at hrest
          simp at hrest
      rw [joinLexemes_cons, QuoteState.run_append, Lexeme.text, hrun, ih hrest]
  | case3 c rest _ hi ih =>
    cases front with
    | nil => rfl
    | cons first front =>
      obtain ⟨rfl, hrest⟩ := List.cons.inj h
      rw [joinLexemes_cons, Lexeme.text,
        QuoteState.run_append_of_noQuote (noQuote_of_ident hi rest), ih hrest]
  | case4 c rest hq _ ih =>
    cases front with
    | nil => rfl
    | cons first front =>
      obtain ⟨rfl, hrest⟩ := List.cons.inj h
      rw [joinLexemes_cons, Lexeme.text, List.singleton_append, QuoteState.run_cons,
        QuoteState.step, if_neg hq, ih hrest]

/-- A literal among the lexemes is cut off the text left. -/
theorem splitLiteral_of_lexeme {text : List Char} {front back : List Lexeme} {q : Char}
    {body : List Char} (h : lexemes text = front ++ .literal q body :: back) :
    isQuote q = true ∧ splitLiteral q (body ++ joinLexemes back) = (body, joinLexemes back) := by
  fun_induction lexemes text generalizing front with
  | case1 => simp at h
  | case2 c rest hq ih =>
    cases front with
    | nil =>
      obtain ⟨hl, rfl⟩ := List.cons.inj h
      simp only [Lexeme.literal.injEq] at hl
      obtain ⟨rfl, rfl⟩ := hl
      rw [joinLexemes_lexemes, splitLiteral_append]
      exact ⟨hq, rfl⟩
    | cons first front => exact ih (List.cons.inj h).2
  | case3 c rest _ _ ih =>
    cases front with
    | nil => cases (List.cons.inj h).1
    | cons first front => exact ih (List.cons.inj h).2
  | case4 c rest _ _ ih =>
    cases front with
    | nil => cases (List.cons.inj h).1
    | cons first front => exact ih (List.cons.inj h).2

/-! ## Both scans -/

/-- The scan from the start of a text and the search for the end of a literal agree on the
literals of the text. -/
structure ScansAgree (text : List Char) : Prop where
  /-- The search by bytes ends where the text left of a quote is cut. -/
  cut : ∀ q start rest, Place text start (q :: rest) →
    Offset.literalEnd? q text start = some (start + utf8Length (q :: (splitLiteral q rest).1))
  /-- The search ends where the scan leaves the literal. -/
  ends : ∀ q start, Offset.Opens q text start →
    ∃ stop, Offset.literalEnd? q text start = some stop ∧ Offset.LeavesAt q text start stop
  /-- The lexemes are a partition of the text. -/
  joined : joinLexemes (lexemes text) = text
  /-- Keys are quoted lexeme by lexeme. -/
  quoted : quoteKeys text = quoteLexemes none (lexemes text)
  /-- The scan opens every literal among the lexemes, and the search ends it. -/
  literals : ∀ front q body back, lexemes text = front ++ .literal q body :: back →
    Offset.Opens q text (utf8Length (joinLexemes front))
      ∧ Offset.literalEnd? q text (utf8Length (joinLexemes front))
        = some (utf8Length (joinLexemes front) + utf8Length (q :: body))
  /-- The scan marks the characters of the literals among the lexemes and no others. -/
  marks : QuoteState.outside.marks text = (lexemes text).flatMap Lexeme.marks
  /-- A string by the grammar of JSON ends where the search ends it. -/
  strings : ∀ start stop body, slice? text start stop = some ('"' :: body) →
    Json.IsStringBody body → Offset.literalEnd? '"' text start = some stop

/-- The two scans of literals agree in every text. -/
theorem scansAgree (text : List Char) : ScansAgree text where
  cut _ _ _ h := Offset.literalEnd?_eq h
  ends _ _ h := Offset.leavesAt_literalEnd h
  joined := joinLexemes_lexemes text
  quoted := (quoteLexemes_lexemes none text).symm
  literals front q body back h := by
    obtain ⟨hq, hsplit⟩ := splitLiteral_of_lexeme h
    have htext : text = joinLexemes front ++ q :: (body ++ joinLexemes back) := by
      rw [← joinLexemes_lexemes text, h, joinLexemes, List.flatMap_append]
      rfl
    have hopens : Offset.Opens q text (utf8Length (joinLexemes front)) :=
      Offset.opens_iff.2 ⟨_, _, htext, rfl, run_joinLexemes h, hq⟩
    refine ⟨hopens, ?_⟩
    rw [Offset.literalEnd?_eq ⟨_, htext, rfl⟩, hsplit]
  marks := (marks_lexemes text).symm
  strings _ _ _ h hbody := Offset.literalEnd?_of_isStringBody h hbody

/-- An escaped quote and a character of two bytes in a literal, and a bracket in another one
that is left open. -/
theorem scansAgree_escaped :
    Offset.Opens '\'' "ü: 'ß\\'', \"\x7b".toList 4
      ∧ (∃ stop, Offset.literalEnd? '\'' "ü: 'ß\\'', \"\x7b".toList 4 = some stop
        ∧ Offset.LeavesAt '\'' "ü: 'ß\\'', \"\x7b".toList 4 stop)
      ∧ Offset.literalEnd? '"' "ü: 'ß\\'', \"\x7b".toList 12 = some 14 := by
  have h : Offset.Opens '\'' "ü: 'ß\\'', \"\x7b".toList 4 :=
    Offset.opens_iff.2 ⟨"ü: ".toList, "ß\\'', \"\x7b".toList, by decide⟩
  exact ⟨h, (scansAgree _).ends _ _ h, by decide⟩

end ShellQuery.Argument
