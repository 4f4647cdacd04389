import ShellQuery.Statement.Split

/-!
# Where a script is cut

A position of a script is a *cut* when a semicolon stands there, the text before
it ends outside every string literal, and no parenthesis is open there.  Cuts are
told by position here, one by one, with no state that is carried along.

`scriptPieces_eq_cutPieces` says that the scan finds these positions and no
others.  The pieces between the cuts, joined by semicolons, are the script again
(`intercalate_cutPieces`).

A piece is scanned from the state at the start of a script, whatever came before
it, and each piece but the last ends in that state.  Trimming keeps both facts.
So a statement is one statement, and the statements of a script, joined by
semicolons, have the same statements.
-/

namespace ShellQuery

open ShellQuery.Text

/-! ## Cuts and pieces by position -/

/-- How many parentheses are open after a text.  The characters of string literals
do not count, and a parenthesis that closes nothing leaves the number at zero. -/
def openParens (text : List Char) : Nat :=
  ((text.zip (QuoteState.outside.marks text)).filter fun p => !p.2).foldl
    (fun depth p => stepDepth '(' ')' depth p.1) 0

/-- Whether a script is cut at a position. -/
def IsCut (script : List Char) (i : Nat) : Prop :=
  script[i]? = some ';' ∧ QuoteState.outside.run (script.take i) = .outside
    ∧ openParens (script.take i) = 0

instance (script : List Char) (i : Nat) : Decidable (IsCut script i) :=
  inferInstanceAs (Decidable (_ ∧ _ ∧ _))

/-- The positions at which a script is cut, in order. -/
def cutPositions (script : List Char) : List Nat :=
  (List.range script.length).filter fun i => IsCut script i

/-- The part of a text from one position up to another. -/
def slice (text : List Char) (start stop : Nat) : List Char := (text.take stop).drop start

/-- The pieces of a text between some positions.  The characters at the positions
are left out. -/
def piecesBetween (positions : List Nat) (text : List Char) : List (List Char) :=
  List.zipWith (slice text) (0 :: positions.map (· + 1)) (positions ++ [text.length])

/-- The pieces of a script between its cuts. -/
def cutPieces (script : List Char) : List (List Char) :=
  piecesBetween (cutPositions script) script

/-! ## The scan finds the cuts -/

/-- The depth of a scan is the count of parentheses outside literals. -/
theorem ScanState.depth_run (s : ScanState) (text : List Char) :
    (s.run text).depth = ((text.zip (s.quote.marks text)).filter fun p => !p.2).foldl
      (fun depth p => stepDepth '(' ')' depth p.1) s.depth := by
  induction text generalizing s with
  | nil => rfl
  | cons c rest ih =>
    rw [run_cons, ih]
    cases hc : s.quote.covers c with
    | true => simp [ScanState.step, QuoteState.marks, hc]
    | false => simp [ScanState.step, QuoteState.marks, hc]

theorem ScanState.quote_run (s : ScanState) (text : List Char) :
    (s.run text).quote = s.quote.run text := by
  induction text generalizing s with
  | nil => rfl
  | cons c rest ih =>
    rw [run_cons, ih, QuoteState.run_cons]
    rfl

/-- The scan of a script keeps the two things that decide about a cut. -/
theorem ScanState.run_start (text : List Char) :
    start.run text = ⟨QuoteState.outside.run text, openParens text⟩ := by
  have hq := quote_run start text
  have hd := depth_run start text
  cases hr : start.run text with
  | mk quote depth =>
    rw [hr] at hq hd
    exact ScanState.mk.injEq .. ▸ ⟨hq, hd⟩

/-- The cuts are the semicolons that the scan meets in its start state. -/
theorem isCut_iff {script : List Char} {i : Nat} :
    IsCut script i ↔
      script[i]? = some ';' ∧ ScanState.start.run (script.take i) = ScanState.start := by
  rw [IsCut, ScanState.run_start, ScanState.start, ScanState.mk.injEq]

/-- The positions at which a scan from some state cuts. -/
def ScanState.cutsFrom (s : ScanState) (text : List Char) : List Nat :=
  (List.range text.length).filter fun i =>
    text[i]? = some ';' ∧ s.run (text.take i) = ScanState.start

theorem cutPositions_eq_cutsFrom (script : List Char) :
    cutPositions script = ScanState.start.cutsFrom script := by
  simp only [cutPositions, ScanState.cutsFrom, isCut_iff]

theorem ScanState.cuts_iff {s : ScanState} {c : Char} :
    s.cuts c = true ↔ c = ';' ∧ s = ScanState.start := by
  obtain ⟨quote, depth⟩ := s
  cases quote with
  | inside q e => simp [ScanState.cuts, ScanState.start, QuoteState.covers]
  | outside =>
    simp only [ScanState.cuts, ScanState.start, QuoteState.covers]
    constructor
    · intro h
      simp_all
    · rintro ⟨rfl, h⟩
      simp_all [isQuote]

/-- The cuts of a text are the first character, if it cuts, and those of the rest. -/
theorem ScanState.cutsFrom_cons (s : ScanState) (c : Char) (rest : List Char) :
    s.cutsFrom (c :: rest) =
      (if s.cuts c then [0] else []) ++ ((s.step c).cutsFrom rest).map (· + 1) := by
  have hrest : ((List.range rest.length).map Nat.succ).filter (fun i =>
      decide ((c :: rest)[i]? = some ';' ∧ s.run ((c :: rest).take i) = ScanState.start))
      = ((s.step c).cutsFrom rest).map (· + 1) := by
    rw [List.filter_map, ScanState.cutsFrom]
    rfl
  rw [ScanState.cutsFrom, List.length_cons, List.range_succ_eq_map, List.filter_cons, hrest]
  by_cases hc : s.cuts c = true
  · obtain ⟨rfl, rfl⟩ := ScanState.cuts_iff.1 hc
    simp [hc]
  · have hn : ¬(c = ';' ∧ s = ScanState.start) := fun h => hc (ScanState.cuts_iff.2 h)
    simp [hc, hn]

/-! ## Pieces, one character more -/

theorem piecesBetween_ne_nil (positions : List Nat) (text : List Char) :
    piecesBetween positions text ≠ [] := by
  cases positions with
  | nil => simp [piecesBetween]
  | cons i more => simp [piecesBetween]

@[simp] theorem slice_cons_succ (c : Char) (rest : List Char) (start stop : Nat) :
    slice (c :: rest) (start + 1) (stop + 1) = slice rest start stop := rfl

/-- Slices of a longer text with both ends moved on are those of the rest. -/
theorem zipWith_slice_cons (c : Char) (rest : List Char) (starts stops : List Nat) :
    List.zipWith (slice (c :: rest)) (starts.map (· + 1)) (stops.map (· + 1))
      = List.zipWith (slice rest) starts stops := by
  rw [List.zipWith_map]
  simp only [slice_cons_succ]

/-- A character in front of a text, where no cut is, belongs to the first piece. -/
theorem piecesBetween_map_succ (c : Char) (rest : List Char) (positions : List Nat) :
    piecesBetween (positions.map (· + 1)) (c :: rest)
      = consToPieces c (piecesBetween positions rest) := by
  have hstops : positions.map (· + 1) ++ [(c :: rest).length]
      = (positions ++ [rest.length]).map (· + 1) := by simp
  rw [piecesBetween, piecesBetween, hstops]
  cases hp : positions ++ [rest.length] with
  | nil => simp at hp
  | cons stop stops =>
    rw [List.map_cons, List.zipWith_cons_cons, zipWith_slice_cons, List.zipWith_cons_cons]
    rfl

/-- A cut at the first character leaves an empty piece before it. -/
theorem piecesBetween_zero_cons (c : Char) (rest : List Char) (positions : List Nat) :
    piecesBetween (0 :: positions.map (· + 1)) (c :: rest)
      = [] :: piecesBetween positions rest := by
  have hstops : positions.map (· + 1) ++ [(c :: rest).length]
      = (positions ++ [rest.length]).map (· + 1) := by simp
  rw [piecesBetween, List.cons_append, hstops, List.zipWith_cons_cons, zipWith_slice_cons]
  rfl

theorem scriptPieces_eq_piecesBetween (s : ScanState) (text : List Char) :
    scriptPieces s text = piecesBetween (s.cutsFrom text) text := by
  induction text generalizing s with
  | nil => rfl
  | cons c rest ih =>
    rw [scriptPieces, ScanState.cutsFrom_cons]
    split
    · rw [ih, List.singleton_append, piecesBetween_zero_cons]
    · rw [ih, List.nil_append, piecesBetween_map_succ]

/-- The scan of a script finds its pieces. -/
theorem scriptPieces_eq_cutPieces (script : List Char) :
    scriptPieces .start script = cutPieces script := by
  rw [cutPieces, cutPositions_eq_cutsFrom, scriptPieces_eq_piecesBetween]

example : cutPositions "a(;); ';'; )b; 'c;".toList = [4, 9, 13] := by decide

/-! ## Joining pieces -/

theorem intercalate_consToPieces (c : Char) {pieces : List (List Char)} (h : pieces ≠ []) :
    [';'].intercalate (consToPieces c pieces) = c :: [';'].intercalate pieces := by
  cases pieces with
  | nil => exact absurd rfl h
  | cons piece more => exact List.intercalate_cons_cons_left

theorem scriptPieces_ne_nil (s : ScanState) (text : List Char) : scriptPieces s text ≠ [] := by
  rw [scriptPieces_eq_piecesBetween]
  exact piecesBetween_ne_nil _ _

/-- Nothing but the semicolons at the cuts is left out. -/
theorem intercalate_scriptPieces (s : ScanState) (text : List Char) :
    [';'].intercalate (scriptPieces s text) = text := by
  induction text generalizing s with
  | nil => rfl
  | cons c rest ih =>
    rw [scriptPieces]
    split
    next hc =>
      obtain ⟨rfl, -⟩ := ScanState.cuts_iff.1 hc
      rw [List.intercalate_cons_of_ne_nil (scriptPieces_ne_nil _ _), ih]
      rfl
    next => rw [intercalate_consToPieces c (scriptPieces_ne_nil _ _), ih]

theorem intercalate_cutPieces (script : List Char) :
    [';'].intercalate (cutPieces script) = script := by
  rw [← scriptPieces_eq_cutPieces, intercalate_scriptPieces]

/-! ## Texts without a cut -/

/-- No character of a text cuts it, for a scan from a state. -/
def ScanState.Uncut : ScanState → List Char → Prop
  | _, [] => True
  | s, c :: rest => s.cuts c = false ∧ (s.step c).Uncut rest

namespace ScanState

theorem uncut_append {s : ScanState} {a b : List Char} :
    s.Uncut (a ++ b) ↔ s.Uncut a ∧ (s.run a).Uncut b := by
  induction a generalizing s with
  | nil => simp [Uncut]
  | cons c rest ih => simp [Uncut, ih, and_assoc]

theorem scriptPieces_append {s : ScanState} {a b : List Char} (h : s.Uncut a) :
    scriptPieces s (a ++ b) = (scriptPieces (s.run a) b).modifyHead (a ++ ·) := by
  induction a generalizing s with
  | nil => cases hp : scriptPieces s b <;> simp [hp]
  | cons c rest ih =>
    obtain ⟨hc, hr⟩ := h
    rw [List.cons_append, scriptPieces, hc, ih hr, run_cons]
    cases hp : scriptPieces ((s.step c).run rest) b with
    | nil => exact absurd hp (scriptPieces_ne_nil _ _)
    | cons piece more => rfl

/-- A text without a cut is one piece. -/
theorem scriptPieces_of_uncut {s : ScanState} {text : List Char} (h : s.Uncut text) :
    scriptPieces s text = [text] := by
  have hp := scriptPieces_append (b := []) h
  simpa [scriptPieces] using hp

theorem step_semicolon : start.step ';' = start := rfl

/-- A text without a cut that ends in the start state is the piece before a
semicolon behind it. -/
theorem scriptPieces_append_semicolon {s : ScanState} {text rest : List Char} (h : s.Uncut text)
    (hr : s.run text = start) :
    scriptPieces s (text ++ ';' :: rest) = text :: scriptPieces start rest := by
  rw [scriptPieces_append h, hr, scriptPieces, step_semicolon]
  simp [show start.cuts ';' = true from rfl]

end ScanState

/-! ## Blanks at the ends -/

theorem stepDepth_of_isBlank {c : Char} (h : isBlank c = true) (depth : Nat) :
    stepDepth '(' ')' depth c = depth := by
  have ho : c ≠ '(' := by rintro rfl; revert h; decide
  have hc : c ≠ ')' := by rintro rfl; revert h; decide
  rw [stepDepth, if_neg ho, if_neg hc]

namespace ScanState

theorem step_of_isBlank {c : Char} (h : isBlank c = true) : start.step c = start := by
  simp [step, start, QuoteState.step, QuoteState.covers, isQuote_of_isBlank h,
    stepDepth_of_isBlank h]

theorem run_of_isBlank {blanks : List Char} (h : ∀ c ∈ blanks, isBlank c = true) :
    start.run blanks = start := by
  induction blanks with
  | nil => rfl
  | cons c rest ih =>
    simp only [List.mem_cons, forall_eq_or_imp] at h
    rw [run_cons, step_of_isBlank h.1, ih h.2]

/-- A blank ends no literal and closes no parenthesis. -/
theorem eq_start_of_step {s : ScanState} (hs : s.quote.Proper) {c : Char}
    (hc : isBlank c = true) (h : s.step c = start) : s = start := by
  obtain ⟨quote, depth⟩ := s
  have hq : quote.step c = .outside := congrArg ScanState.quote h
  have hd : (ScanState.mk quote depth |>.step c).depth = 0 := congrArg ScanState.depth h
  cases quote with
  | outside =>
    simp only [step, QuoteState.covers, isQuote_of_isBlank hc, stepDepth_of_isBlank hc,
      Bool.false_eq_true, if_false] at hd
    rw [hd]
    rfl
  | inside q e =>
    cases e with
    | true => cases hq
    | false =>
      have hne : c ≠ q := by
        rintro rfl
        have hquote : isQuote c = true := hs
        rw [isQuote_of_isBlank hc] at hquote
        cases hquote
      rw [QuoteState.step, if_neg hne] at hq
      split at hq <;> cases hq

theorem eq_start_of_run {s : ScanState} (hs : s.quote.Proper) {blanks : List Char}
    (hb : ∀ c ∈ blanks, isBlank c = true) (h : s.run blanks = start) : s = start := by
  induction blanks generalizing s with
  | nil => exact h
  | cons c rest ih =>
    simp only [List.mem_cons, forall_eq_or_imp] at hb
    exact eq_start_of_step hs hb.1 (ih (QuoteState.proper_step hs c) hb.2 h)

theorem proper_run {s : ScanState} (hs : s.quote.Proper) (text : List Char) :
    (s.run text).quote.Proper := by
  induction text generalizing s with
  | nil => exact hs
  | cons c rest ih => exact ih (QuoteState.proper_step hs c)

/-- The blanks around a text. -/
theorem exists_eq_trim (text : List Char) : ∃ before after, text = before ++ trim text ++ after
    ∧ (∀ c ∈ before, isBlank c = true) ∧ ∀ c ∈ after, isBlank c = true := by
  obtain ⟨before, ht, hb⟩ := exists_eq_append_skipBlank text
  obtain ⟨after, hs, ha⟩ := exists_eq_trimEnd_append (skipBlank text)
  refine ⟨before, after, ?_, hb, ha⟩
  rw [List.append_assoc, trim, ← hs]
  exact ht

theorem uncut_trim {text : List Char} (h : start.Uncut text) : start.Uncut (trim text) := by
  obtain ⟨before, after, ht, hb, -⟩ := exists_eq_trim text
  rw [ht, uncut_append, uncut_append, run_of_isBlank hb] at h
  exact h.1.2

theorem run_trim {text : List Char} (h : start.run text = start) :
    start.run (trim text) = start := by
  obtain ⟨before, after, ht, hb, ha⟩ := exists_eq_trim text
  rw [ht, run_append, run_append, run_of_isBlank hb] at h
  exact eq_start_of_run (proper_run (by trivial) _) ha h

end ScanState

/-! ## Texts that stay apart when they are joined -/

/-- Every text is uncut, and every one but the last ends in the start state. -/
def Separable : List (List Char) → Prop
  | [] => True
  | text :: more =>
      ScanState.start.Uncut text ∧ (more ≠ [] → ScanState.start.run text = .start)
        ∧ Separable more

/-- The pieces of a text are separable, the first one from the state of the scan. -/
theorem separable_scriptPieces (s : ScanState) (text : List Char) :
    ∃ piece more, scriptPieces s text = piece :: more ∧ s.Uncut piece
      ∧ (more ≠ [] → s.run piece = .start) ∧ Separable more := by
  induction text generalizing s with
  | nil => exact ⟨[], [], rfl, trivial, fun h => absurd rfl h, trivial⟩
  | cons c rest ih =>
    obtain ⟨piece, more, hp, hu, hr, hm⟩ := ih (s.step c)
    rw [scriptPieces, hp]
    cases hc : s.cuts c with
    | true =>
      obtain ⟨rfl, rfl⟩ := ScanState.cuts_iff.1 hc
      exact ⟨[], piece :: more, rfl, trivial, fun _ => rfl, hu, hr, hm⟩
    | false => exact ⟨c :: piece, more, rfl, ⟨hc, hu⟩, hr, hm⟩

theorem Separable.uncut_of_mem {texts : List (List Char)} (h : Separable texts)
    {text : List Char} (ht : text ∈ texts) : ScanState.start.Uncut text := by
  induction texts with
  | nil => cases ht
  | cons other more ih =>
    rcases List.mem_cons.1 ht with rfl | hm
    · exact h.1
    · exact ih h.2.2 hm

theorem Separable.map_trim {texts : List (List Char)} (h : Separable texts) :
    Separable (texts.map trim) := by
  induction texts with
  | nil => trivial
  | cons text more ih =>
    obtain ⟨hu, hr, hm⟩ := h
    refine ⟨ScanState.uncut_trim hu, fun hne => ScanState.run_trim (hr ?_), ih hm⟩
    rintro rfl
    exact hne rfl

theorem Separable.filter {texts : List (List Char)} (h : Separable texts)
    (keep : List Char → Bool) : Separable (texts.filter keep) := by
  induction texts with
  | nil => trivial
  | cons text more ih =>
    obtain ⟨hu, hr, hm⟩ := h
    rw [List.filter_cons]
    split
    · refine ⟨hu, fun hne => hr ?_, ih hm⟩
      rintro rfl
      exact hne rfl
    · exact ih hm

/-- Separable texts are the pieces of what they make up. -/
theorem Separable.scriptPieces_intercalate {texts : List (List Char)} (h : Separable texts)
    (hne : texts ≠ []) : scriptPieces .start ([';'].intercalate texts) = texts := by
  induction texts with
  | nil => exact absurd rfl hne
  | cons text more ih =>
    obtain ⟨hu, hr, hm⟩ := h
    cases more with
    | nil => rw [List.intercalate_singleton, ScanState.scriptPieces_of_uncut hu]
    | cons next others =>
      rw [List.intercalate_cons_cons, List.append_assoc, List.singleton_append,
        ScanState.scriptPieces_append_semicolon hu (hr (by simp)), ih hm (by simp)]

/-! ## Statements -/

theorem splitChars_separable (script : List Char) : Separable (splitChars script) := by
  obtain ⟨piece, more, hp, hs⟩ := separable_scriptPieces .start script
  have hall : Separable (scriptPieces .start script) := by
    rw [hp]
    exact hs
  exact hall.map_trim.filter _

theorem trim_of_mem_splitChars {script text : List Char} (h : text ∈ splitChars script) :
    trim text = text ∧ text ≠ [] := by
  obtain ⟨hm, hne⟩ := List.mem_filter.1 h
  obtain ⟨piece, -, rfl⟩ := List.mem_map.1 hm
  exact ⟨trim_trim piece, by simpa using hne⟩

/-- Statements joined by semicolons are the statements of what they make up. -/
theorem splitChars_intercalate {texts : List (List Char)} (h : Separable texts)
    (ht : ∀ text ∈ texts, trim text = text ∧ text ≠ []) :
    splitChars ([';'].intercalate texts) = texts := by
  cases texts with
  | nil => rfl
  | cons text more =>
    have hmap : (text :: more).map trim = text :: more :=
      (List.map_congr_left fun t hm => (ht t hm).1).trans (List.map_id _)
    rw [splitChars, h.scriptPieces_intercalate (by simp), hmap, List.filter_eq_self]
    intro t hm
    simpa using (ht t hm).2

theorem splitChars_of_mem {script text : List Char} (h : text ∈ splitChars script) :
    splitChars text = [text] := by
  obtain ⟨ht, hne⟩ := trim_of_mem_splitChars h
  have hu : Separable [text] :=
    ⟨(splitChars_separable script).uncut_of_mem h, fun hn => absurd rfl hn, trivial⟩
  have hj := splitChars_intercalate hu (by simpa using ⟨ht, hne⟩)
  rwa [List.intercalate_singleton] at hj

/-- Reading the characters of strings made of texts gives the texts. -/
theorem map_toList_map_ofList (texts : List (List Char)) :
    (texts.map String.ofList).map String.toList = texts := by
  rw [List.map_map]
  exact (List.map_congr_left fun t _ => String.toList_ofList).trans (List.map_id _)

/-- A script is split exactly at its cuts: the statements are the trimmed pieces that
are not empty, and the pieces make up the script.  A statement is one statement, and
so the statements can be joined and split again. -/
theorem splitScript_exact (script : String) :
    splitScript script
        = (((cutPieces script.toList).map trim).filter fun piece => !piece.isEmpty).map String.ofList
      ∧ [';'].intercalate (cutPieces script.toList) = script.toList
      ∧ (∀ statement ∈ splitScript script, splitScript statement = [statement])
      ∧ splitScript (";".intercalate (splitScript script)) = splitScript script := by
  refine ⟨?_, intercalate_cutPieces _, ?_, ?_⟩
  · rw [splitScript, splitChars, scriptPieces_eq_cutPieces]
  · intro statement hm
    obtain ⟨text, ht, rfl⟩ := List.mem_map.1 hm
    rw [splitScript, String.toList_ofList, splitChars_of_mem ht]
    rfl
  · have hj := splitChars_intercalate (splitChars_separable script.toList)
      fun _ hm => trim_of_mem_splitChars hm
    rw [splitScript, String.toList_intercalate, splitScript, map_toList_map_ofList]
    exact congrArg (List.map String.ofList) hj

/-- Blank pieces, semicolons in literals and in parentheses, and an open literal. -/
theorem splitScript_exact_open_literal :
    "b.f(x;y)" ∈ splitScript "a(';') ;; b.f(x;y); 'open; c"
      ∧ splitScript "b.f(x;y)" = ["b.f(x;y)"] :=
  have h : "b.f(x;y)" ∈ splitScript "a(';') ;; b.f(x;y); 'open; c" := by decide
  ⟨h, (splitScript_exact "a(';') ;; b.f(x;y); 'open; c").2.2.1 _ h⟩

end ShellQuery
