import ShellQuery.Proofs.Statement.Closed
import ShellQuery.Proofs.Statement.Spelling
import ShellQuery.Statement.Parse

/-!
# Reading spelled statements

A spelled statement is read as what it stands for, and a script of spelled
statements as one after the other.

The three scans see the same text in different ways.  The readers of the base call
and of the chain look for the parenthesis that closes a group.  The splitter counts
parentheses over the whole script.  `ScanState.Closed` is what they have to agree
on: no character of the text cuts, and the scan is back at its start behind it.
-/

namespace ShellQuery.Spelling

open ShellQuery.Text

/-! ## Tokens -/

/-- The character behind a gap ends the token in front of it. -/
theorem Gap.head?_append {g : Gap} {c : Char} (hc : isIdentChar c = false) (rest : List Char) :
    ∀ d ∈ (g.text ++ c :: rest).head?, isIdentChar d = false := by
  intro d hd
  cases ht : g.text with
  | nil =>
    rw [ht, List.nil_append, List.head?_cons, Option.mem_some_iff] at hd
    rwa [← hd]
  | cons b more =>
    rw [ht, List.cons_append, List.head?_cons, Option.mem_some_iff] at hd
    rw [← hd]
    exact isIdentChar_of_isBlank (g.blank b (by simp [ht]))

theorem Gap.skipBlank_append (g : Gap) {c : Char} (hc : isBlank c = false) (rest : List Char) :
    skipBlank (g.text ++ c :: rest) = c :: rest := by
  rw [Text.skipBlank_append g.blank, skipBlank_cons hc]

theorem isBlank_of_isIdentChar {c : Char} (h : isIdentChar c = true) : isBlank c = false := by
  cases hc : isBlank c with
  | false => rfl
  | true => rw [isIdentChar_of_isBlank hc] at h; cases h

theorem Name.isBlank_head (n : Name) : isBlank n.head = false :=
  isBlank_of_isIdentChar (isIdentChar_of_isIdentStart n.head_start)

/-- A name behind a gap is read. -/
theorem Name.readIdent?_skipBlank (g : Gap) (n : Name) {rest : List Char}
    (hr : ∀ d ∈ rest.head?, isIdentChar d = false) :
    readIdent? (skipBlank (g.text ++ n.text ++ rest)) = some (n.text, rest) := by
  have hs : g.text ++ n.text ++ rest = g.text ++ n.head :: (n.tail ++ rest) := by
    simp [Name.text]
  rw [hs, g.skipBlank_append n.isBlank_head]
  exact readIdent?_append_eq n.head_start n.tail_char hr

/-- Arguments behind a gap are read. -/
theorem Arguments.readGroup?_skipBlank (g : Gap) (a : Arguments) (rest : List Char) :
    readGroup? '(' ')' (skipBlank (g.text ++ '(' :: a.text ++ ')' :: rest))
      = some (a.text, rest) := by
  have hs : g.text ++ '(' :: a.text ++ ')' :: rest = g.text ++ '(' :: (a.text ++ ')' :: rest) := by
    simp
  rw [hs, g.skipBlank_append (by decide), ← List.cons_append]
  exact readGroup?_isItems (by decide) (by decide) (by decide) (isItems_of_isGroup a.group) rest

/-! ## Quoted names -/

theorem QuotedName.isQuote_quote (n : QuotedName) : isQuote n.quote = true := by
  rcases n.quote_eq with h | h <;> rw [h] <;> decide

theorem QuotedName.isLiteralBody (n : QuotedName) :
    IsLiteralBody n.quote (n.chars ++ [n.quote]) := by
  refine isLiteralBody_append (fun c hc => ⟨?_, (n.chars_plain c hc).2⟩) (.close n.quote)
  rintro rfl
  have hplain := (n.chars_plain _ hc).1
  rw [n.isQuote_quote] at hplain
  cases hplain

/-- Blanks are items of any group whose brackets are not blank. -/
theorem isItems_blank_append {opener closer : Char} (ho : isBlank opener = false)
    (hc : isBlank closer = false) {blanks items : List Char}
    (hb : ∀ c ∈ blanks, isBlank c = true) (h : IsItems opener closer items) :
    IsItems opener closer (blanks ++ items) := by
  induction blanks with
  | nil => exact h
  | cons c rest ih =>
    simp only [List.mem_cons, forall_eq_or_imp] at hb
    refine .char ?_ ?_ (isQuote_of_isBlank hb.1) (ih hb.2)
    · rintro rfl
      rw [hb.1] at ho
      cases ho
    · rintro rfl
      rw [hb.1] at hc
      cases hc

/-- A quoted name with blanks around it is what stands in a pair of brackets. -/
theorem QuotedName.isItems {opener closer : Char} (ho : isBlank opener = false)
    (hc : isBlank closer = false) (g g' : Gap) (n : QuotedName) :
    IsItems opener closer (g.text ++ n.text ++ g'.text) := by
  rw [List.append_assoc]
  refine isItems_blank_append ho hc g.blank ?_
  have hafter : IsItems opener closer g'.text := by
    simpa using isItems_blank_append ho hc g'.blank .nil
  exact .literal n.isQuote_quote n.isLiteralBody hafter

/-- A quoted name is what stands between its quotes. -/
theorem QuotedName.unquote? (g g' : Gap) (n : QuotedName) :
    ShellQuery.unquote? (g.text ++ n.text ++ g'.text) = some n.chars := by
  have hq : isBlank n.quote = false := by
    rcases n.quote_eq with h | h <;> rw [h] <;> decide
  have ht : trim (g.text ++ n.text ++ g'.text) = n.quote :: (n.chars ++ [n.quote]) := by
    rw [trim_append_append g.blank g'.blank, QuotedName.text, trim, List.cons_append,
      skipBlank_cons hq, ← List.cons_append, trimEnd_concat hq]
  rw [ShellQuery.unquote?, ht]
  have hc : (decide (n.quote = '"') || decide (n.quote = '\'')) = true := by
    simpa using n.quote_eq
  simp [hc, n.chars_ne_nil]

/-- A quoted name in brackets is read. -/
theorem QuotedName.readQuotedName? {opener closer : Char} (ho : isQuote opener = false)
    (hc : isQuote closer = false) (hne : opener ≠ closer) (hob : isBlank opener = false)
    (hcb : isBlank closer = false) (g g' : Gap) (n : QuotedName) (rest : List Char) :
    BaseCall.readQuotedName? opener closer
        (opener :: (g.text ++ n.text ++ g'.text) ++ closer :: rest)
      = some (n.chars, rest) := by
  rw [BaseCall.readQuotedName?, readGroup?_isItems ho hc hne (n.isItems hob hcb g g') rest]
  simp only [Option.bind_eq_bind, Option.bind_some, n.unquote?]
  rfl

/-! ## Calls -/

/-- A name behind a dot and a gap is read. -/
theorem Name.readIdent?_dot (g : Gap) (n : Name) {rest : List Char}
    (hr : ∀ d ∈ rest.head?, isIdentChar d = false) :
    (expectChar? '.' ('.' :: g.text ++ n.text ++ rest)).bind (fun r => readIdent? (skipBlank r))
      = some (n.text, rest) := by
  rw [List.cons_append, List.cons_append, expectChar?, if_pos rfl, Option.bind_some]
  exact n.readIdent?_skipBlank g hr

theorem Call.fromDot_append (c : Call) (rest : List Char) :
    c.fromDot ++ rest = '.' :: c.beforeName.text ++ c.name.text
      ++ (c.beforeArgs.text ++ '(' :: c.args.text ++ ')' :: rest) := by
  simp [Call.fromDot]

theorem Call.skipBlank_text_append (c : Call) (rest : List Char) :
    skipBlank (c.text ++ rest) = c.fromDot ++ rest := by
  rw [Call.text, List.append_assoc, Call.fromDot_append]
  exact c.beforeDot.skipBlank_append (by decide) _

/-- The name of a call is read, and its arguments are left. -/
theorem Call.readName (c : Call) (rest : List Char) :
    (expectChar? '.' (c.fromDot ++ rest)).bind (fun r => readIdent? (skipBlank r))
      = some (c.name.text, c.beforeArgs.text ++ '(' :: c.args.text ++ ')' :: rest) := by
  rw [Call.fromDot_append]
  refine c.name.readIdent?_dot c.beforeName ?_
  rw [List.append_assoc]
  exact c.beforeArgs.head?_append (by decide) _

theorem Call.read? (c : Call) (rest : List Char) :
    CursorCall.read? (c.fromDot ++ rest) = some (c.value, skipBlank rest) := by
  have hn := c.readName rest
  obtain ⟨r, hd, hn⟩ := Option.bind_eq_some_iff.1 hn
  simp only [CursorCall.read?, hd, hn, Option.bind_eq_bind, Option.bind_some,
    c.args.readGroup?_skipBlank c.beforeArgs rest]
  rfl

/-- A chain is read as the calls that it is made of. -/
theorem readAll_chain (chain : List Call) :
    CursorCall.readAll (skipBlank (chain.flatMap Call.text)) = chain.map Call.value := by
  induction chain with
  | nil =>
    rw [CursorCall.readAll]
    rfl
  | cons c more ih =>
    have hr := c.read? (more.flatMap Call.text)
    rw [List.flatMap_cons, Call.skipBlank_text_append, CursorCall.readAll]
    split
    next hn => rw [hr] at hn; cases hn
    next call rest hs =>
      rw [hr] at hs
      cases hs
      rw [ih]
      rfl

/-! ## Collections -/

/-- What is read behind a dot: an identifier, unless it is the word before a quoted
name in parentheses. -/
theorem readCollection?_dot (g1 g2 : Gap) (n : Name) {rest : List Char}
    (hr : ∀ d ∈ rest.head?, isIdentChar d = false) :
    BaseCall.readCollection? (g1.text ++ '.' :: g2.text ++ n.text ++ rest)
      = if n.text = "getCollection".toList && (skipBlank rest).head? = some '('
        then BaseCall.readQuotedName? '(' ')' (skipBlank rest) else some (n.text, rest) := by
  have hs : skipBlank (g1.text ++ '.' :: g2.text ++ n.text ++ rest)
      = '.' :: (g2.text ++ n.text ++ rest) := by
    rw [List.append_assoc, List.append_assoc, List.cons_append, g1.skipBlank_append (by decide),
      List.append_assoc]
  rw [BaseCall.readCollection?, hs]
  simp only [expectChar?, Option.bind_eq_bind, Option.bind_some, if_true,
    n.readIdent?_skipBlank g2 hr]
  rfl

/-- A collection in front of a call is read. -/
theorem Collection.readCollection? (k : Collection) (c : Call) (rest : List Char) :
    BaseCall.readCollection? (k.text ++ (c.text ++ rest)) = some (k.name, c.text ++ rest) := by
  have hc : c.text ++ rest = c.beforeDot.text ++ '.' :: (c.beforeName.text ++ c.name.text
      ++ (c.beforeArgs.text ++ '(' :: c.args.text ++ ')' :: rest)) := by
    rw [Call.text, List.append_assoc, c.fromDot_append]
    simp
  have hskip : (skipBlank (c.text ++ rest)).head? = some '.' := by
    rw [hc, c.beforeDot.skipBlank_append (by decide)]
    rfl
  cases k with
  | dotted g1 g2 n =>
    have hr : ∀ d ∈ (c.text ++ rest).head?, isIdentChar d = false := by
      rw [hc]
      exact c.beforeDot.head?_append (by decide) _
    rw [Collection.text, readCollection?_dot g1 g2 n hr, hskip]
    simp [Collection.name]
  | bracketed g1 g2 g3 n =>
    have ht : (bracketed g1 g2 g3 n).text ++ (c.text ++ rest) = g1.text
        ++ '[' :: (g2.text ++ n.text ++ g3.text ++ ']' :: (c.text ++ rest)) := by
      simp [Collection.text]
    rw [ht, BaseCall.readCollection?, g1.skipBlank_append (by decide)]
    exact n.readQuotedName? (by decide) (by decide) (by decide) (by decide) (by decide) g2 g3 _
  | called g1 g2 g3 g4 g5 n =>
    have ht : (called g1 g2 g3 g4 g5 n).text ++ (c.text ++ rest)
        = g1.text ++ '.' :: g2.text ++ getCollection.text ++ (g3.text
          ++ '(' :: (g4.text ++ n.text ++ g5.text ++ ')' :: (c.text ++ rest))) := by
      simp [Collection.text]
    have hs : skipBlank (g3.text ++ '(' :: (g4.text ++ n.text ++ g5.text
        ++ ')' :: (c.text ++ rest))) = _ := g3.skipBlank_append (by decide) _
    have hw : getCollection.text = "getCollection".toList := rfl
    rw [ht, readCollection?_dot g1 g2 getCollection (g3.head?_append (by decide) _), hs,
      if_pos (by rw [hw]; rfl)]
    exact n.readQuotedName? (by decide) (by decide) (by decide) (by decide) (by decide) g4 g5 _

/-! ## Base calls -/

theorem Collection.head?_text (k : Collection) (rest : List Char) :
    ∀ d ∈ (k.text ++ rest).head?, isIdentChar d = false := by
  cases k with
  | dotted g1 g2 n =>
    rw [Collection.text, List.append_assoc, List.append_assoc]
    exact g1.head?_append (by decide) _
  | bracketed g1 g2 g3 n =>
    rw [Collection.text, List.append_assoc, List.append_assoc]
    exact g1.head?_append (by decide) _
  | called g1 g2 g3 g4 g5 n =>
    simp only [Collection.text, List.append_assoc]
    exact g1.head?_append (by decide) _

/-- The keyword at the start of a statement. -/
theorem readIdent?_db {rest : List Char} (hr : ∀ d ∈ rest.head?, isIdentChar d = false) :
    readIdent? ('d' :: 'b' :: rest) = some ("db".toList, rest) := by
  have htail : ∀ d ∈ ['b'], isIdentChar d = true := List.all_iff_forall_prop.1 (by decide)
  exact readIdent?_append_eq (by decide) htail hr

/-- The base call of a statement is read, and its chain is left. -/
theorem Statement.read?_core (s : Statement) :
    BaseCall.read? s.core = some (s.baseCall, s.chainText) := by
  have hc : s.core = 'd' :: 'b' :: (s.collection.text ++ (s.operation.text ++ s.chainText)) := by
    simp [Statement.core]
  have hn := s.operation.readName s.chainText
  obtain ⟨r, hd, hn⟩ := Option.bind_eq_some_iff.1 hn
  rw [hc, BaseCall.read?, readIdent?_db (s.collection.head?_text _)]
  simp only [Option.bind_eq_bind, Option.bind_some, if_true, s.collection.readCollection?,
    Call.skipBlank_text_append, hd, hn, s.operation.args.readGroup?_skipBlank]
  rfl

/-! ## The ends of a statement -/

theorem Call.exists_text (c : Call) : ∃ front, c.text = front ++ [')'] :=
  ⟨_, by rw [Call.text, Call.fromDot, ← List.append_assoc]⟩

theorem exists_calls_text (c : Call) (chain : List Call) :
    ∃ front, c.text ++ chain.flatMap Call.text = front ++ [')'] := by
  induction chain generalizing c with
  | nil =>
    obtain ⟨front, hf⟩ := c.exists_text
    exact ⟨front, by rw [List.flatMap_nil, List.append_nil, hf]⟩
  | cons d more ih =>
    obtain ⟨front, hf⟩ := ih d
    exact ⟨c.text ++ front, by rw [List.flatMap_cons, hf, List.append_assoc]⟩

theorem Statement.exists_core (s : Statement) : ∃ front, s.core = 'd' :: front ++ [')'] := by
  obtain ⟨front, hf⟩ := exists_calls_text s.operation s.chain
  refine ⟨'b' :: s.collection.text ++ front, ?_⟩
  rw [Statement.core, Statement.chainText, List.append_assoc, hf]
  simp

theorem Statement.trim_core (s : Statement) : trim s.core = s.core := by
  obtain ⟨front, hf⟩ := s.exists_core
  rw [hf, trim, List.cons_append, skipBlank_cons (by decide), ← List.cons_append,
    trimEnd_concat (by decide)]

theorem Statement.trim_text (s : Statement) : trim s.text.toList = s.core := by
  rw [Statement.text, String.toList_ofList, trim_append_append s.before.blank s.after.blank,
    s.trim_core]

theorem Statement.dropSemicolons_core (s : Statement) : dropSemicolons s.core = s.core := by
  obtain ⟨front, hf⟩ := s.exists_core
  rw [hf, dropSemicolons]
  simp

/-! ## One statement -/

/-- A spelled statement is extracted as the base call it stands for. -/
theorem Statement.extract_text (s : Statement) :
    BaseCall.extract s.text = .ok (s.baseCall, s.chainText) := by
  rw [BaseCall.extract, s.trim_text, s.read?_core]

theorem Statement.chain_chainText (s : Statement) :
    CursorCall.chain s.chainText = s.chain.map Call.value :=
  readAll_chain s.chain

theorem Statement.parseStatement_text (s : Statement) :
    parseStatement s.text = (do
      let args ← Argument.normalize (trim s.operation.args.text)
      Descriptor.ofCalls s.baseCall (s.chain.map Call.value) args) := by
  have hb : bareStatement s.text.toList = s.core := by
    rw [bareStatement, s.trim_text, s.dropSemicolons_core, s.trim_core]
  have hne : s.core.isEmpty = false := rfl
  have he : BaseCall.extract (String.ofList s.core) = .ok (s.baseCall, s.chainText) := by
    rw [BaseCall.extract, String.toList_ofList, s.trim_core, s.read?_core]
  have ha : s.baseCall.args.toList = trim s.operation.args.text := String.toList_ofList
  rw [parseStatement, hb, hne, if_neg Bool.false_ne_true, he]
  simp only [bind, Except.bind, s.chain_chainText, ha]

/-! ## Spelled statements are closed -/

theorem Gap.closed (g : Gap) : ScanState.Closed g.text :=
  ScanState.closed_of_plain fun c hc => ScanState.plain_of_isBlank (g.blank c hc)

theorem Name.closed (n : Name) : ScanState.Closed n.text := by
  refine ScanState.closed_of_plain fun c hc => ScanState.plain_of_isIdentChar ?_
  rcases List.mem_cons.1 hc with rfl | ht
  · exact isIdentChar_of_isIdentStart n.head_start
  · exact n.tail_char c ht

theorem QuotedName.closed (n : QuotedName) : ScanState.Closed n.text :=
  ScanState.closed_literal n.isQuote_quote n.isLiteralBody

theorem Arguments.closed (a : Arguments) : ScanState.Closed ('(' :: a.text ++ [')']) :=
  ScanState.closed_group (isItems_of_isGroup a.group)

theorem closed_dot (g : Gap) {rest : List Char} (h : ScanState.Closed rest) :
    ScanState.Closed (g.text ++ '.' :: rest) :=
  g.closed.append (h.cons (by unfold ScanState.Plain; decide))

theorem Call.closed (c : Call) : ScanState.Closed c.text := by
  have ht : c.text = c.beforeDot.text ++ '.' :: (c.beforeName.text ++ (c.name.text
      ++ (c.beforeArgs.text ++ ('(' :: c.args.text ++ [')'])))) := by
    simp [Call.text, Call.fromDot]
  rw [ht]
  exact closed_dot _ (c.beforeName.closed.append (c.name.closed.append
    (c.beforeArgs.closed.append c.args.closed)))

theorem closed_calls (chain : List Call) : ScanState.Closed (chain.flatMap Call.text) := by
  induction chain with
  | nil => exact ScanState.closed_nil
  | cons c more ih =>
    rw [List.flatMap_cons]
    exact c.closed.append ih

theorem QuotedName.closed_around (g g' : Gap) (n : QuotedName) :
    ScanState.Closed (g.text ++ n.text ++ g'.text) :=
  (g.closed.append n.closed).append g'.closed

theorem Collection.closed (k : Collection) : ScanState.Closed k.text := by
  cases k with
  | dotted g1 g2 n =>
    rw [Collection.text, List.append_assoc]
    exact closed_dot g1 (g2.closed.append n.closed)
  | bracketed g1 g2 g3 n =>
    rw [Collection.text, List.append_assoc, List.cons_append]
    refine g1.closed.append (ScanState.Closed.cons ?_ ((n.closed_around g2 g3).append
      (ScanState.closed_of_plain ?_)))
    · unfold ScanState.Plain
      decide
    · unfold ScanState.Plain
      exact List.all_iff_forall_prop.1 (by decide)
  | called g1 g2 g3 g4 g5 n =>
    have ht : (called g1 g2 g3 g4 g5 n).text = g1.text ++ '.' :: (g2.text ++ (getCollection.text
        ++ (g3.text ++ ('(' :: (g4.text ++ n.text ++ g5.text) ++ [')'])))) := by
      simp [Collection.text]
    have hi : IsItems '(' ')' (g4.text ++ n.text ++ g5.text) :=
      n.isItems (by decide) (by decide) g4 g5
    rw [ht]
    exact closed_dot g1 (g2.closed.append (getCollection.closed.append
      (g3.closed.append (ScanState.closed_group hi))))

theorem Statement.closed_core (s : Statement) : ScanState.Closed s.core := by
  have hd : ScanState.Closed ['d', 'b'] := ⟨⟨rfl, rfl, trivial⟩, rfl⟩
  have hc : s.core = ['d', 'b'] ++ (s.collection.text ++ (s.operation.text ++ s.chainText)) := by
    simp [Statement.core]
  rw [hc]
  exact hd.append (s.collection.closed.append (s.operation.closed.append (closed_calls s.chain)))

theorem Statement.closed_text (s : Statement) : ScanState.Closed s.text.toList := by
  rw [Statement.text, String.toList_ofList]
  exact (s.before.closed.append s.closed_core).append s.after.closed

/-! ## Scripts -/

theorem separable_of_closed {texts : List (List Char)} (h : ∀ t ∈ texts, ScanState.Closed t) :
    Separable texts := by
  induction texts with
  | nil => trivial
  | cons text more ih =>
    simp only [List.mem_cons, forall_eq_or_imp] at h
    exact ⟨h.1.1, fun _ => h.1.2, ih h.2⟩

/-- The statements of a script of spelled statements. -/
theorem splitScript_intercalate (script : List Statement) :
    splitScript (";".intercalate (script.map Statement.text))
      = script.map fun s => String.ofList s.core := by
  cases script with
  | nil => rfl
  | cons first others =>
    have hsep : Separable (((first :: others).map Statement.text).map String.toList) := by
      refine separable_of_closed fun t ht => ?_
      rw [List.map_map] at ht
      obtain ⟨s, -, rfl⟩ := List.mem_map.1 ht
      exact s.closed_text
    have htrim : (((first :: others).map Statement.text).map String.toList).map trim
        = (first :: others).map Statement.core := by
      rw [List.map_map, List.map_map]
      exact List.map_congr_left fun s _ => s.trim_text
    have hkeep : ((first :: others).map Statement.core).filter (fun piece => !piece.isEmpty)
        = (first :: others).map Statement.core := by
      rw [List.filter_eq_self]
      intro t ht
      obtain ⟨s, -, rfl⟩ := List.mem_map.1 ht
      rfl
    have hjoin := hsep.scriptPieces_intercalate (by simp)
    rw [splitScript, splitChars, String.toList_intercalate]
    rw [show ";".toList = [';'] from rfl, hjoin, htrim, hkeep, List.map_map]
    rfl

/-- Blanks around a statement are of no account to its reader. -/
theorem parseStatement_trim (text : List Char) :
    parseStatement (String.ofList (trim text)) = parseStatement (String.ofList text) := by
  have hb : bareStatement (trim text) = bareStatement text := by
    rw [bareStatement, bareStatement, trim_trim]
  rw [parseStatement, parseStatement, String.toList_ofList, String.toList_ofList, hb]

/-- What a statement comes to alone, kept under its text without the blanks around. -/
def Statement.outcome (s : Statement) : StatementOutcome where
  statement := trimString s.text
  result := (StatementOutcome.of s.text).result
  warnings := (StatementOutcome.of s.text).warnings

theorem Statement.outcome_core (s : Statement) :
    StatementOutcome.of (String.ofList s.core) = s.outcome := by
  have hp := parseStatement_trim s.text.toList
  rw [String.ofList_toList, s.trim_text] at hp
  rw [Statement.outcome, trimString, s.trim_text, StatementOutcome.of, StatementOutcome.of, hp]
  cases parseStatement s.text with
  | ok p => rfl
  | error e => rfl

/-- Statements and scripts are read as they are spelled.  A statement gives its
collection, its operation, its trimmed arguments and its chain, and its descriptor
is made of these.  A script gives one outcome for each statement, in order, which is
that of the statement alone. -/
theorem read_spelling :
    (∀ s : Statement, BaseCall.extract s.text = .ok (s.baseCall, s.chainText)
      ∧ CursorCall.chain s.chainText = s.chain.map Call.value
      ∧ parseStatement s.text = (do
          let args ← Argument.normalize (trim s.operation.args.text)
          Descriptor.ofCalls s.baseCall (s.chain.map Call.value) args))
    ∧ ∀ script : List Statement,
      parseScript (";".intercalate (script.map Statement.text))
        = script.map Statement.outcome := by
  refine ⟨fun s => ⟨s.extract_text, s.chain_chainText, s.parseStatement_text⟩, fun script => ?_⟩
  rw [parseScript, splitScript_intercalate, List.map_map]
  refine List.map_congr_left fun s _ => ?_
  rw [Function.comp_apply, s.outcome_core]

end ShellQuery.Spelling
