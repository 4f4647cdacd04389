import Mathlib.Data.List.TakeWhile
import ShellQuery.Proofs.Statement.Prefix

/-!
# Terminators of a statement

Blanks and semicolons end a statement and say nothing.

A base call and a call of a chain end with a parenthesis, which is no terminator.  So with
terminators behind a text the same calls are read from it and the terminators are left
(`EndsWithParen.append_terminators`, `chain_append_terminators`).  A statement with any other
character in it is therefore the same with terminators behind it.

Without such a character there is no statement.  The script splitter finds none, but a text is
only then taken for empty if its semicolons stand together, since they are dropped once
(`parseStatement_terminators_iff`).
-/

namespace ShellQuery

open ShellQuery.Text

namespace Text

/-! ## Terminators -/

/-- Blanks and semicolons only. -/
def IsTerminators (text : List Char) : Prop := ∀ c ∈ text, isBlank c = true ∨ c = ';'

-- The instance is named, since another one runs through all characters.
instance (text : List Char) : Decidable (IsTerminators text) :=
  List.decidableBAll (fun c => isBlank c = true ∨ c = ';') text

theorem IsTerminators.of_subset {a b : List Char} (h : IsTerminators b) (hsub : a ⊆ b) :
    IsTerminators a := fun c hc => h c (hsub hc)

theorem IsTerminators.append {a b : List Char} (ha : IsTerminators a) (hb : IsTerminators b) :
    IsTerminators (a ++ b) := fun c hc => (List.mem_append.1 hc).elim (ha c) (hb c)

/-- A text ends with terminators behind its last other character, if it has one. -/
theorem isTerminators_or_exists (text : List Char) : IsTerminators text ∨
    ∃ front c tail, text = front ++ c :: tail ∧ isBlank c = false ∧ c ≠ ';'
      ∧ IsTerminators tail := by
  induction text with
  | nil => exact .inl fun c hc => by cases hc
  | cons d text ih =>
    obtain hall | ⟨front, c, tail, rfl, hc⟩ := ih
    · by_cases hd : isBlank d = true ∨ d = ';'
      · refine .inl fun c hc => ?_
        obtain rfl | hc := List.mem_cons.1 hc
        · exact hd
        · exact hall c hc
      · rw [not_or, Bool.not_eq_true] at hd
        exact .inr ⟨[], d, text, rfl, hd.1, hd.2, hall⟩
    · exact .inr ⟨d :: front, c, tail, rfl, hc⟩

theorem IsTerminators.skipBlank {text : List Char} (h : IsTerminators text) :
    IsTerminators (skipBlank text) := h.of_subset (List.dropWhile_subset _)

/-- Nothing but a semicolon can stand first in terminators without their first blanks. -/
theorem IsTerminators.eq_of_skipBlank {text rest : List Char} {c : Char} (h : IsTerminators text)
    (hc : Text.skipBlank text = c :: rest) : c = ';' := by
  refine (h.skipBlank c (by rw [hc]; exact List.mem_cons_self)).resolve_left ?_
  rw [isBlank_of_skipBlank_eq_cons hc]
  exact Bool.false_ne_true

/-- A text that reaches up to a character which is not in the terminators behind it leaves all
of them. -/
theorem IsTerminators.exists_of_suffix {text more rest : List Char} {c : Char}
    (hmore : IsTerminators more) (hc : isBlank c = false) (hsemicolon : c ≠ ';')
    (h : c :: rest <:+ text ++ more) : ∃ left, rest = left ++ more := by
  have hnot : c ∉ more := fun hmem => by
    obtain hblank | heq := hmore c hmem
    · rw [hc] at hblank
      cases hblank
    · exact hsemicolon heq
  obtain hin | hin := List.suffix_or_suffix_of_suffix h (List.suffix_append text more)
  · exact absurd (hin.subset List.mem_cons_self) hnot
  · obtain rfl | hin := List.suffix_cons_iff.1 hin
    · exact absurd List.mem_cons_self hnot
    · obtain ⟨left, hleft⟩ := hin
      exact ⟨left, hleft.symm⟩

/-- With terminators behind a text such a reader finds the same and leaves them. -/
theorem EndsWithParen.append_terminators {α : Type} {read : List Char → Option (α × List Char)}
    (hread : EndsWithParen read) {more : List Char} (hmore : IsTerminators more)
    (text : List Char) :
    read (text ++ more) = (read text).map fun (a, rest) => (a, rest ++ more) := by
  cases hlong : read (text ++ more) with
  | none =>
    cases hshort : read text with
    | none => rfl
    | some result =>
      rw [hread.longer hshort] at hlong
      cases hlong
  | some result =>
    obtain ⟨a, after⟩ := result
    obtain ⟨rest, rfl⟩ := hmore.exists_of_suffix (by decide) (by decide) (hread.paren hlong)
    obtain ⟨front, htext, hfront⟩ := hread.shorter hlong
    rw [List.append_cancel_right htext, hfront]
    rfl

theorem exists_trim_concat {c : Char} (hc : isBlank c = false) (front : List Char) :
    ∃ before, trim (front ++ [c]) = before ++ [c] := by
  induction front with
  | nil => exact ⟨[], by rw [List.nil_append, trim, skipBlank_cons hc]; exact trimEnd_concat hc []⟩
  | cons d front ih =>
    cases hd : isBlank d with
    | true =>
      obtain ⟨before, hbefore⟩ := ih
      refine ⟨before, ?_⟩
      rw [← hbefore, trim, trim, List.cons_append]
      simp [skipBlank, hd]
    | false =>
      refine ⟨d :: front, ?_⟩
      rw [trim, List.cons_append, skipBlank_cons hd]
      exact trimEnd_concat hc (d :: front)

end Text

/-! ## The chain -/

namespace CursorCall

variable {text more : List Char}

/-- A chain is its first call and the chain behind it. -/
theorem chain_eq (text : List Char) : chain text =
    match readCall? (skipBlank text) with
    | none => []
    | some (call, rest) => call :: chain rest := by
  rw [chain, readAll, read?_eq_map]
  cases readCall? (skipBlank text) with
  | none => rfl
  | some result => rfl

/-- The chain of terminators is empty. -/
theorem chain_terminators (h : IsTerminators text) : chain text = [] := by
  rw [chain_eq]
  cases hskip : skipBlank text with
  | nil => rfl
  | cons c rest =>
    rw [h.eq_of_skipBlank hskip]
    rfl

/-- With terminators behind a text, the same chain is read from it. -/
theorem chain_append_terminators (hmore : IsTerminators more) (text : List Char) :
    chain (text ++ more) = chain text := by
  by_cases hskip : skipBlank text = []
  · -- Only blanks stand in front of the terminators.
    have htext : IsTerminators text := fun c hc => by
      obtain ⟨blanks, heq, hblanks⟩ := exists_eq_append_skipBlank text
      rw [heq, hskip, List.append_nil] at hc
      exact .inl (hblanks c hc)
    rw [chain_terminators htext, chain_terminators (htext.append hmore)]
  · rw [chain_eq, chain_eq text, skipBlank_append_right hskip,
      endsWithParen_readCall?.append_terminators hmore]
    cases hcall : readCall? (skipBlank text) with
    | none => rfl
    | some result =>
      have hrest : result.2.length < text.length := by
        have hsuffix := (suffix_of_readCall? hcall).length_le
        have hle := skipBlank_length_le text
        simp only [List.length_cons] at hsuffix
        omega
      simp only [Option.map_some]
      rw [chain_append_terminators hmore result.2]
termination_by text.length

end CursorCall

/-! ## The statement -/

/-- What a text comes to that has neither blanks nor semicolons at its ends to lose. -/
def outcomeOf (text : List Char) : Except ParseError (Descriptor × List Warning) :=
  match BaseCall.read? text with
  | none => .error .invalidFormat
  | some (call, rest) => do
      let args ← Argument.normalize call.args.toList
      Descriptor.ofCalls call (CursorCall.chain rest) args

theorem trim_bareStatement (text : List Char) : trim (bareStatement text) = bareStatement text :=
  trim_trim _

theorem parseStatement_eq_outcomeOf {statement : String}
    (h : bareStatement statement.toList ≠ []) :
    parseStatement statement = outcomeOf (bareStatement statement.toList) := by
  rw [parseStatement, if_neg (by simpa using h), BaseCall.extract, String.toList_ofList,
    trim_bareStatement, outcomeOf]
  cases BaseCall.read? (bareStatement statement.toList) with
  | none => rfl
  | some result => rfl

theorem outcomeOf_append_terminators {more : List Char} (hmore : IsTerminators more)
    (text : List Char) : outcomeOf (text ++ more) = outcomeOf text := by
  rw [outcomeOf, outcomeOf, BaseCall.endsWithParen_read?.append_terminators hmore]
  cases BaseCall.read? text with
  | none => rfl
  | some result =>
    simp only [Option.map_some, CursorCall.chain_append_terminators hmore]

theorem dropSemicolons_subset (text : List Char) : dropSemicolons text ⊆ text := fun _ hc =>
  List.mem_reverse.1 (List.dropWhile_subset _ (List.mem_reverse.1 hc))

theorem trimEnd_subset (text : List Char) : trimEnd text ⊆ text := fun _ hc =>
  List.mem_reverse.1 (List.dropWhile_subset _ (List.mem_reverse.1 hc))

theorem trim_subset (text : List Char) : trim text ⊆ text := fun _ hc =>
  List.dropWhile_subset _ (trimEnd_subset _ hc)

theorem bareStatement_subset (text : List Char) : bareStatement text ⊆ text := fun _ hc =>
  trim_subset _ (dropSemicolons_subset _ (trim_subset _ hc))

theorem bareEnd_subset (text : List Char) : bareEnd text ⊆ text := fun _ hc =>
  trimEnd_subset _ (dropSemicolons_subset _ (trimEnd_subset _ hc))

/-- A text that is more than terminators comes to the same with terminators behind it. -/
theorem parseStatement_append_terminators {statement more : String}
    (h : ¬IsTerminators statement.toList) (hmore : IsTerminators more.toList) :
    parseStatement (statement ++ more) = parseStatement statement := by
  obtain hall | ⟨front, c, tail, htext, hc, hsemicolon, htail⟩ :=
    isTerminators_or_exists statement.toList
  · exact absurd hall h
  -- The last character that is no terminator stays, and all in front of it.
  obtain ⟨before, hbefore⟩ := exists_trim_concat hc front
  obtain ⟨blanks, hblanks, hbare⟩ := exists_bareStatement_append hc hsemicolon hbefore
  have hends {ends : List Char} (hends : IsTerminators ends) :
      outcomeOf (bareStatement (front ++ [c] ++ ends)) = outcomeOf (trim (front ++ [c])) := by
    rw [hbare]
    refine outcomeOf_append_terminators ?_ _
    have hall : IsTerminators (_ ++ ends) := .append (fun d hd => .inl (hblanks d hd)) hends
    exact hall.of_subset (bareEnd_subset _)
  have hne {ends : List Char} : bareStatement (front ++ [c] ++ ends) ≠ [] := by
    rw [hbare, hbefore]
    simp
  have hstatement : statement.toList = front ++ [c] ++ tail := by rw [htext]; simp
  have hlonger : (statement ++ more).toList = front ++ [c] ++ (tail ++ more.toList) := by
    rw [String.toList_append, hstatement, List.append_assoc]
  rw [parseStatement_eq_outcomeOf (by rw [hlonger]; exact hne),
    parseStatement_eq_outcomeOf (by rw [hstatement]; exact hne), hlonger, hstatement,
    hends (htail.append hmore), hends htail]

/-! ## Terminators alone -/

theorem dropSemicolons_eq_nil {text : List Char} (h : ∀ c ∈ text, c = ';') :
    dropSemicolons text = [] := by
  have hall : ∀ c ∈ text.reverse, (c == ';') = true := fun c hc =>
    beq_iff_eq.2 (h c (List.mem_reverse.1 hc))
  rw [dropSemicolons, List.dropWhile_eq_nil_iff.2 hall, List.reverse_nil]

theorem exists_eq_dropSemicolons_append (text : List Char) :
    ∃ semicolons, text = dropSemicolons text ++ semicolons ∧ ∀ c ∈ semicolons, c = ';' := by
  refine ⟨(text.reverse.takeWhile (· == ';')).reverse, ?_, fun c hc => ?_⟩
  · rw [dropSemicolons, ← List.reverse_append, List.takeWhile_append_dropWhile,
      List.reverse_reverse]
  · exact beq_iff_eq.1 (List.all_eq_true.1 List.all_takeWhile c (List.mem_reverse.1 hc))

/-- A text is taken for empty exactly if it has nothing but semicolons between its blanks. -/
theorem bareStatement_eq_nil_iff {text : List Char} :
    bareStatement text = [] ↔ ∀ c ∈ trim text, c = ';' := by
  constructor
  · intro h
    obtain ⟨semicolons, htext, hsemicolons⟩ := exists_eq_dropSemicolons_append (trim text)
    have hblank : ∀ c ∈ dropSemicolons (trim text), isBlank c = true := by
      obtain ⟨before, after, heq, hbefore, hafter⟩ :=
        ScanState.exists_eq_trim (dropSemicolons (trim text))
      rw [← bareStatement, h, List.append_nil] at heq
      intro c hc
      rw [heq] at hc
      exact (List.mem_append.1 hc).elim (hbefore c) (hafter c)
    cases hdrop : dropSemicolons (trim text) with
    | nil =>
      rw [htext, hdrop]
      exact hsemicolons
    | cons c rest =>
      -- A trimmed text does not start with a blank.
      have hskip : skipBlank (trim text) = c :: (rest ++ semicolons) := by
        rw [show skipBlank (trim text) = trim text from skipBlank_trimEnd_skipBlank text, htext,
          hdrop]
        rfl
      have hc := hblank c (by rw [hdrop]; exact List.mem_cons_self)
      rw [isBlank_of_skipBlank_eq_cons hskip] at hc
      cases hc
  · intro h
    rw [bareStatement, dropSemicolons_eq_nil h]
    rfl

/-- Terminators that are not taken for empty leave a semicolon first, which starts no base
call. -/
theorem parseStatement_of_isTerminators {w : String} (h : IsTerminators w.toList)
    (hrun : ¬∀ c ∈ trim w.toList, c = ';') : parseStatement w = .error .invalidFormat := by
  have hne : bareStatement w.toList ≠ [] := fun hnil => hrun (bareStatement_eq_nil_iff.1 hnil)
  obtain ⟨c, rest, hbare⟩ := List.exists_cons_of_ne_nil hne
  have hskip : skipBlank (bareStatement w.toList) = bareStatement w.toList :=
    skipBlank_trimEnd_skipBlank _
  rw [parseStatement_eq_outcomeOf hne, hbare,
    (h.of_subset (bareStatement_subset _)).eq_of_skipBlank (hskip.trans hbare)]
  rfl

/-! ## Scripts -/

/-- A statement of a script is more than terminators: a semicolon at its start would cut it. -/
theorem not_isTerminators_of_mem_splitChars {script text : List Char}
    (h : text ∈ splitChars script) : ¬IsTerminators text := by
  intro hall
  obtain ⟨htrim, hne⟩ := trim_of_mem_splitChars h
  obtain ⟨c, rest, rfl⟩ := List.exists_cons_of_ne_nil hne
  have hskip : skipBlank (c :: rest) = c :: rest := by
    have htrimmed := skipBlank_trimEnd_skipBlank (c :: rest)
    rwa [← trim, htrim] at htrimmed
  have hc := hall.eq_of_skipBlank hskip
  have huncut := ((splitChars_separable script).uncut_of_mem h).1
  rw [hc] at huncut
  cases huncut

theorem subset_intercalate {sep piece : List Char} {pieces : List (List Char)}
    (h : piece ∈ pieces) : piece ⊆ sep.intercalate pieces := by
  induction pieces with
  | nil => cases h
  | cons first more ih =>
    cases more with
    | nil =>
      rw [List.mem_singleton.1 h, List.intercalate_singleton]
      exact List.Subset.refl _
    | cons next others =>
      rw [List.intercalate_cons_cons]
      obtain rfl | h := List.mem_cons.1 h
      · exact fun c hc => List.mem_append_left _ (List.mem_append_left _ hc)
      · exact fun c hc => List.mem_append_right _ (ih h hc)

theorem subset_of_mem_splitChars {script text : List Char} (h : text ∈ splitChars script) :
    text ⊆ script := by
  obtain ⟨piece, hpiece, rfl⟩ := List.mem_map.1 (List.mem_filter.1 h).1
  have hsub : piece ⊆ [';'].intercalate (scriptPieces _ script) := subset_intercalate hpiece
  rw [intercalate_scriptPieces] at hsub
  exact fun c hc => hsub (trim_subset _ hc)

/-- A script of terminators has no statement. -/
theorem splitScript_of_isTerminators {w : String} (h : IsTerminators w.toList) :
    splitScript w = [] := by
  rw [splitScript, List.map_eq_nil_iff]
  refine List.eq_nil_iff_forall_not_mem.2 fun text htext => ?_
  exact not_isTerminators_of_mem_splitChars htext (h.of_subset (subset_of_mem_splitChars htext))

/-- Terminators are no statement: a script of them has none, and they are taken for empty
exactly if their semicolons stand together, and otherwise for a statement without a format.
Behind a statement of a script they change nothing, neither the descriptor nor the warnings nor
the error. -/
theorem parseStatement_terminators_iff {w : String} (hw : IsTerminators w.toList) :
    splitScript w = []
    ∧ (parseStatement w = .error .emptyStatement ↔ ∀ c ∈ trim w.toList, c = ';')
    ∧ (parseStatement w = .error .invalidFormat ↔ ¬∀ c ∈ trim w.toList, c = ';')
    ∧ ∀ script, ∀ t ∈ splitScript script, parseStatement (t ++ w) = parseStatement t := by
  refine ⟨splitScript_of_isTerminators hw, ?empty, ?format, ?behind⟩
  case empty =>
    constructor
    · intro hempty
      by_contra hrun
      rw [parseStatement_of_isTerminators hw hrun] at hempty
      cases hempty
    · intro hrun
      rw [parseStatement, bareStatement_eq_nil_iff.2 hrun]
      rfl
  case format =>
    refine ⟨fun hformat hrun => ?_, parseStatement_of_isTerminators hw⟩
    rw [parseStatement, bareStatement_eq_nil_iff.2 hrun] at hformat
    cases hformat
  case behind =>
    intro script t ht
    obtain ⟨text, htext, rfl⟩ := List.mem_map.1 ht
    refine parseStatement_append_terminators ?_ hw
    rw [String.toList_ofList]
    exact not_isTerminators_of_mem_splitChars htext

/-- Semicolons between blanks, and terminators behind a call with an open literal. -/
theorem parseStatement_terminators_iff_open :
    IsTerminators " \t;;\n".toList ∧ parseStatement " \t;;\n" = .error .emptyStatement
      ∧ "db.c.find().limit(1) 'open;" ∈ splitScript "; db.c.find().limit(1) 'open;"
      ∧ IsTerminators " ; ;".toList
      ∧ parseStatement ("db.c.find().limit(1) 'open;" ++ " ; ;")
          = parseStatement "db.c.find().limit(1) 'open;" := by
  have hempty : IsTerminators " \t;;\n".toList := by decide
  have hends : IsTerminators " ; ;".toList := by decide
  have hrun : ∀ c ∈ trim " \t;;\n".toList, c = ';' := by
    rw [show trim " \t;;\n".toList = [';', ';'] by decide]
    simp
  have hmem : "db.c.find().limit(1) 'open;" ∈ splitScript "; db.c.find().limit(1) 'open;" := by
    decide
  obtain ⟨-, hiff, -⟩ := parseStatement_terminators_iff hempty
  obtain ⟨-, -, -, hbehind⟩ := parseStatement_terminators_iff hends
  exact ⟨hempty, hiff.2 hrun, hmem, hends, hbehind _ _ hmem⟩

/-- Two semicolons with a blank between them are no statement of a script, and yet they are not
taken for empty. -/
theorem not_emptyStatement_apart :
    IsTerminators "; ;".toList ∧ splitScript "; ;" = []
      ∧ parseStatement "; ;" = .error .invalidFormat
      ∧ parseStatement "; ;" ≠ .error .emptyStatement := by
  have hends : IsTerminators "; ;".toList := by decide
  have hblank : ¬∀ c ∈ trim "; ;".toList, c = ';' := fun h =>
    absurd (h ' ' (by decide)) (by decide)
  have hformat : parseStatement "; ;" = .error .invalidFormat :=
    parseStatement_of_isTerminators hends hblank
  refine ⟨hends, splitScript_of_isTerminators hends, hformat, ?_⟩
  rw [hformat]
  nofun

end ShellQuery
