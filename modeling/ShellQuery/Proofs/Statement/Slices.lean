import ShellQuery.Proofs.Text.Offset
import ShellQuery.Statement.BaseCall
import ShellQuery.Statement.CursorCall
import ShellQuery.Statement.FunctionLiteral

/-!
# Base calls, chains and functions by slices

The readers of a base call, of the calls chained to it and of a function, written with byte
offsets and slices.  An offset is the place of something that was found, or is one byte or
two behind it: dots, brackets, quotes and the arrow are made of characters of one byte.  So
every slice exists, and the readers give what those of the text left give.

A loop counts its rounds, and has no result if it needs more of them than the text has
characters.  None does, as each round takes characters off the text left.
-/

namespace ShellQuery.Offset

open ShellQuery.Text (Place sliceFrom? sliceTo? slice? findChar? utf8Length dropWord? trim)

variable {text rest : List Char} {start : Nat}

/-! ## Collections -/

/-- The text between the quotes of a quoted name. -/
def unquote? (literal : List Char) : Slicing (List Char) := do
  let literal := trim literal
  match literal.head?, literal.tail.getLast? with
  | some first, some last =>
      if (first = '"' || first = '\'') && first = last then
        let inner ← cut (slice? literal 1 (utf8Length literal - 1))
        if inner.isEmpty then failure else pure inner
      else failure
  | _, _ => failure

theorem follows_unquote? (literal : List Char) :
    Follows Eq (ShellQuery.unquote? literal) (unquote? literal) := by
  rw [ShellQuery.unquote?, unquote?]
  cases trim literal with
  | nil => exact follows_failure
  | cons q body =>
    rcases List.eq_nil_or_concat body with rfl | ⟨inner, last, rfl⟩
    · simpa using follows_failure
    · rw [List.concat_eq_append]
      simp only [List.head?_cons, List.tail_cons, List.getLast?_concat, List.dropLast_concat]
      by_cases hq : q = '"' ∨ q = '\''
      · by_cases hlast : last = q
        · -- the quotes are one byte long
          subst hlast
          have hone : last.utf8Size = 1 := by rcases hq with rfl | rfl <;> decide
          have hplace : Place (last :: (inner ++ [last])) 1 (inner ++ [last]) :=
            ⟨[last], rfl, by simp [hone]⟩
          have hstop : utf8Length (last :: (inner ++ [last])) - 1 = 1 + utf8Length inner := by
            simp [hone, Nat.add_comm]
          have hcond : ((last = '"' || last = '\'') && last = last) = true := by simpa using hq
          rw [if_pos hcond, hstop]
          refine .cut hplace.slice? ?_
          cases inner with
          | nil => simpa using follows_failure
          | cons c inner => simpa [hq] using follows_pure rfl
        · have hcond : ((q = '"' || q = '\'') && q = last) = false := by
            simpa using fun _ => Ne.symm hlast
          simpa [hcond, hlast] using follows_failure
      · simpa [hq] using follows_failure

/-- A name in brackets and quotes at a byte, and the byte behind the brackets. -/
def readQuotedName? (opener closer : Char) (text : List Char) (start : Nat) :
    Slicing (List Char × Nat) := do
  let (body, i) ← readGroup? opener closer text start
  let name ← unquote? body
  pure (name, i)

theorem follows_readQuotedName? {opener closer : Char} (ho : opener.utf8Size = 1)
    (hc : closer.utf8Size = 1) (h : Place text start (opener :: rest)) :
    Follows (SamePlace text) (BaseCall.readQuotedName? opener closer (opener :: rest))
      (readQuotedName? opener closer text start) := by
  refine (follows_readGroup? ho hc h).bind fun (body, rest) (body', i) hread => ?_
  obtain ⟨rfl, hi⟩ := hread
  exact (follows_unquote? body).bind fun _ _ hname => follows_pure ⟨hname, hi⟩

/-- The collection of an identifier and the byte behind it: the name in a call of
`getCollection`, or else the identifier. -/
def readNamed? (ident text : List Char) (start : Nat) : Slicing (List Char × Nat) := do
  if ident = "getCollection".toList then
    let i ← cut (skipBlank? text start)
    let call ← cut (sliceFrom? text i)
    if call.head? = some '(' then readQuotedName? '(' ')' text i else pure (ident, start)
  else pure (ident, start)

theorem follows_readNamed? (h : Place text start rest) (ident : List Char) :
    Follows (SamePlace text)
      (if ident = "getCollection".toList && (Text.skipBlank rest).head? = some '(' then
        BaseCall.readQuotedName? '(' ')' (Text.skipBlank rest)
      else pure (ident, rest))
      (readNamed? ident text start) := by
  rw [readNamed?]
  generalize "getCollection".toList = name
  by_cases hident : ident = name
  · obtain ⟨i, hskip, hi⟩ := exists_skipBlank? h
    rw [if_pos hident]
    refine .cut hskip (.cut hi.sliceFrom? ?_)
    cases hcall : Text.skipBlank rest with
    | nil => simpa using follows_pure ⟨rfl, h⟩
    | cons c more =>
      rw [hcall] at hi
      by_cases hc : c = '('
      · subst hc
        simpa [hident] using follows_readQuotedName? (by decide) (by decide) hi
      · simpa [hc] using follows_pure ⟨rfl, h⟩
  · simpa [hident] using follows_pure ⟨rfl, h⟩

/-- The collection at a byte, and the byte behind it. -/
def readCollection? (text : List Char) (start : Nat) : Slicing (List Char × Nat) := do
  let i ← cut (skipBlank? text start)
  let rest ← cut (sliceFrom? text i)
  if rest.head? = some '[' then readQuotedName? '[' ']' text i
  else do
    let i ← expectChar? '.' text i
    let i ← cut (skipBlank? text i)
    let (ident, i) ← readIdent? text i
    readNamed? ident text i

theorem follows_readCollection? (h : Place text start rest) :
    Follows (SamePlace text) (BaseCall.readCollection? rest) (readCollection? text start) := by
  obtain ⟨i, hskip, hi⟩ := exists_skipBlank? h
  rw [BaseCall.readCollection?]
  refine .cut hskip (.cut hi.sliceFrom? ?_)
  have hrest := Text.skipBlank_skipBlank rest
  generalize Text.skipBlank rest = rest at hi hrest
  split
  · rw [List.head?_cons, if_pos rfl]
    exact follows_readQuotedName? (by decide) (by decide) hi
  · rename_i hne
    have hhead : rest.head? ≠ some '[' := by
      cases rest with
      | nil => simp
      | cons c more => simpa using fun hc : c = '[' => hne more (by rw [hc])
    have hdot := follows_expectChar? hi '.'
    rw [hrest] at hdot
    rw [if_neg hhead]
    refine hdot.bind fun rest i hi => ?_
    obtain ⟨i, hskip, hi⟩ := exists_skipBlank? hi
    refine .cut hskip ((follows_readIdent? hi).bind fun found found' hread => ?_)
    obtain ⟨ident, rest⟩ := found
    obtain ⟨ident', i⟩ := found'
    obtain ⟨rfl, hi⟩ := hread
    exact follows_readNamed? hi ident

/-! ## Base calls -/

/-- A base call at the start of a text, and the text behind it. -/
def readBaseCall? (text : List Char) : Slicing (BaseCall × List Char) := do
  let (keyword, i) ← readIdent? text 0
  if keyword = "db".toList then
    let (collection, i) ← readCollection? text i
    let i ← expectChar? '.' text i
    let i ← cut (skipBlank? text i)
    let (operation, i) ← readIdent? text i
    let (args, i) ← readArgs? text i
    let rest ← cut (sliceFrom? text i)
    pure
      ( { collection := String.ofList collection
          operation := String.ofList operation
          args := String.ofList (trim args) },
        rest )
  else failure

/-- The base call of a statement, and the text behind it. -/
def extract? (statement : String) : Option (Except ParseError (BaseCall × List Char)) :=
  (readBaseCall? (trim statement.toList)).run.map fun
    | some result => .ok result
    | none => .error .invalidFormat

theorem follows_readBaseCall? (text : List Char) :
    Follows Eq (BaseCall.read? text) (readBaseCall? text) := by
  refine (follows_readIdent? (.zero text)).bind fun (keyword, rest) (keyword', i) hread => ?_
  obtain ⟨rfl, hi⟩ := hread
  dsimp only
  split
  · refine (follows_readCollection? hi).bind fun (name, rest) (name', i) hread => ?_
    obtain ⟨rfl, hi⟩ := hread
    refine (follows_expectChar? hi '.').bind fun rest i hi => ?_
    obtain ⟨i, hskip, hi⟩ := exists_skipBlank? hi
    refine .cut hskip ((follows_readIdent? hi).bind fun (ident, rest) (ident', i) hread => ?_)
    obtain ⟨rfl, hi⟩ := hread
    refine (follows_readArgs? hi).bind fun (args, rest) (args', i) hread => ?_
    obtain ⟨rfl, hi⟩ := hread
    exact .cut hi.sliceFrom? (follows_pure rfl)
  · exact follows_failure

theorem extract?_eq (statement : String) :
    extract? statement = some (BaseCall.extract statement) := by
  have hrun := (follows_readBaseCall? (trim statement.toList)).run_eq
  cases hread : BaseCall.read? (trim statement.toList) with
  | none => simp only [extract?, BaseCall.extract, hrun, hread, Option.map_some]
  | some result => simp only [extract?, BaseCall.extract, hrun, hread, Option.map_some]

/-! ## Chains -/

/-- A call of a cursor method at a byte, and the byte behind it and the blanks that follow. -/
def readCall? (text : List Char) (start : Nat) : Slicing (CursorCall × Nat) := do
  let rest ← cut (sliceFrom? text start)
  if rest.head? = some '.' then
    let i ← cut (skipBlank? text (start + 1))
    let (name, i) ← readIdent? text i
    let (args, i) ← readArgs? text i
    let i ← cut (skipBlank? text i)
    pure (⟨String.ofList name, String.ofList (trim args)⟩, i)
  else failure

/-- The calls from a byte on, and the byte behind them, if the loop over them ends within a
number of rounds. -/
def readCalls? (text : List Char) : Nat → Nat → Option (List CursorCall × Nat)
  | 0, _ => none
  | rounds + 1, start => do
      match ← (readCall? text start).run with
      | none => pure ([], start)
      | some (call, i) =>
          let (calls, stop) ← readCalls? text rounds i
          pure (call :: calls, stop)

/-- The chain of a text.  The text left behind it is cut off too. -/
def chain? (text : List Char) : Option (List CursorCall) := do
  let start ← skipBlank? text 0
  let (calls, stop) ← readCalls? text (text.length + 1) start
  if stop < utf8Length text then
    let _left ← sliceFrom? text stop
    pure calls
  else pure calls

theorem follows_readCall? (h : Place text start rest) :
    Follows (SamePlace text) (CursorCall.read? rest) (readCall? text start) := by
  refine .cut h.sliceFrom? ?_
  cases rest with
  | nil => exact follows_failure
  | cons c rest =>
    by_cases hc : c = '.'
    · subst hc
      obtain ⟨i, hskip, hi⟩ := exists_skipBlank? h.cons
      rw [List.head?_cons, if_pos rfl]
      refine .cut hskip ((follows_readIdent? hi).bind fun (name, rest) (name', i) hread => ?_)
      obtain ⟨rfl, hi⟩ := hread
      refine (follows_readArgs? hi).bind fun (args, rest) (args', i) hread => ?_
      obtain ⟨rfl, hi⟩ := hread
      obtain ⟨i, hskip, hi⟩ := exists_skipBlank? hi
      exact .cut hskip (follows_pure ⟨rfl, hi⟩)
    · rw [CursorCall.read?, Text.expectChar?, if_neg hc, List.head?_cons,
        if_neg (by simpa using hc)]
      exact follows_failure

/-- The loop over the calls ends, at a place of the text: each round takes characters off the
text left. -/
theorem exists_readCalls? {rounds : Nat} (h : Place text start rest) (hr : rest.length < rounds) :
    ∃ stop, readCalls? text rounds start = some (CursorCall.readAll rest, stop)
      ∧ ∃ left, Place text stop left := by
  induction rounds generalizing start rest with
  | zero => exact absurd hr (Nat.not_lt_zero _)
  | succ rounds ih =>
    obtain ⟨found, hrun, hrel⟩ := follows_readCall? h
    rw [CursorCall.readAll, readCalls?, hrun]
    cases hread : CursorCall.read? rest with
    | none =>
      rw [hread] at hrel
      cases hrel
      exact ⟨start, rfl, rest, h⟩
    | some read =>
      obtain ⟨call, after⟩ := read
      have hlt : after.length < rounds := by
        have := CursorCall.read?_length_lt hread
        omega
      rw [hread] at hrel
      cases hrel with
      | @some _ found hab =>
        obtain ⟨call', i⟩ := found
        obtain ⟨rfl, hi⟩ := hab
        obtain ⟨stop, hcalls, hstop⟩ := ih hi hlt
        refine ⟨stop, ?_, hstop⟩
        simp [hcalls]

theorem chain?_eq (text : List Char) : chain? text = some (CursorCall.chain text) := by
  obtain ⟨start, hskip, hstart⟩ := exists_skipBlank? (.zero text)
  have hrounds : (Text.skipBlank text).length < text.length + 1 :=
    Nat.lt_succ_of_le (Text.skipBlank_length_le text)
  obtain ⟨stop, hcalls, left, hleft⟩ := exists_readCalls? hstart hrounds
  rw [chain?, hskip, Option.bind_eq_bind, Option.bind_some, hcalls, Option.bind_eq_bind,
    Option.bind_some]
  dsimp only
  rw [hleft.sliceFrom?]
  split
  · rfl
  · rfl

/-! ## Functions -/

/-- The byte where a word is found first.  The text starts at the given byte. -/
def findWordFrom? (word : List Char) (start : Nat) : List Char → Option Nat
  | [] => if word.isEmpty then some start else none
  | c :: rest =>
      if (dropWord? word (c :: rest)).isSome then some start
      else findWordFrom? word (start + c.utf8Size) rest

/-- The byte where a word is found first in a text. -/
def findWord? (word text : List Char) : Option Nat := findWordFrom? word 0 text

/-- The first identifier of a parameter list, or nothing. -/
def firstParam? (params : List Char) : Option (List Char) := do
  let start ← skipBlank? params 0
  let found ← (readIdent? params start).run
  pure ((found.map Prod.fst).getD [])

/-- An arrow function, of which the arrow is at a byte. -/
def arrow? (text : List Char) (arrow : Nat) : Slicing FunctionLiteral := do
  let params ← cut (sliceTo? text arrow)
  let param ← cut (firstParam? (FunctionLiteral.stripParens (trim params)))
  let start ← cut (skipBlank? text (arrow + 2))
  let rest ← cut (sliceFrom? text start)
  if rest.head? = some '\x7b' then
    let stop ← closing? '\x7b' '\x7d' rest 0
    let body ← cut (slice? rest 1 stop)
    pure (.ofChars param body)
  else pure (.ofChars param rest)

/-- Parameters in parentheses and a body in braces. -/
def brackets? (text : List Char) : Slicing FunctionLiteral := do
  let start ← OptionT.mk (some (findChar? (fun c => c == '(') text))
  let close ← closing? '(' ')' text start
  let params ← cut (slice? text (start + 1) close)
  let param ← cut (firstParam? params)
  let rest ← cut (sliceFrom? text close)
  let brace ← OptionT.mk (some ((findChar? (fun c => c == '\x7b') rest).map (close + ·)))
  let stop ← closing? '\x7b' '\x7d' text brace
  let body ← cut (slice? text (brace + 1) stop)
  pure (.ofChars param body)

/-- A function by its brackets. -/
def matched? (text : List Char) : Slicing FunctionLiteral :=
  match findWord? "=>".toList text with
  | some arrow =>
      if (dropWord? "function".toList text).isSome then brackets? text else arrow? text arrow
  | none => brackets? text

/-- The function that a text stands for, if it stands for one. -/
def function? (text : List Char) : Option (Option FunctionLiteral) :=
  match FunctionLiteral.whole? text with
  | some function => some (some function)
  | none => (matched? (trim text)).run

theorem firstParam?_eq (params : List Char) :
    firstParam? params = some (FunctionLiteral.firstParam params) := by
  obtain ⟨start, hskip, hstart⟩ := exists_skipBlank? (.zero params)
  obtain ⟨found, hrun, hrel⟩ := follows_readIdent? hstart
  rw [firstParam?, hskip, Option.bind_eq_bind, Option.bind_some, hrun, FunctionLiteral.firstParam]
  generalize Text.readIdent? (Text.skipBlank params) = read at hrel ⊢
  cases hrel with
  | none => rfl
  | some hab =>
    obtain ⟨hident, -⟩ := hab
    simp [hident]

/-- The arrow is found where the text is cut. -/
theorem findWordFrom?_arrow (start : Nat) (text : List Char) :
    findWordFrom? ['=', '>'] start text
      = (FunctionLiteral.splitArrow? text).map fun (params, _) => start + utf8Length params := by
  fun_induction FunctionLiteral.splitArrow? text generalizing start with
  | case1 => rfl
  | case2 rest => rfl
  | case3 c rest hne ih =>
    have hno : (dropWord? ['=', '>'] (c :: rest)).isSome = false := by
      rw [Option.isSome_eq_false_iff, Option.isNone_iff_eq_none, Option.eq_none_iff_forall_ne_some]
      intro after hafter
      obtain ⟨rfl, rfl⟩ := List.cons.inj (Text.dropWord?_eq_some.1 hafter)
      exact hne after rfl rfl
    rw [findWordFrom?, hno, if_neg (by decide), ih]
    cases FunctionLiteral.splitArrow? rest with
    | none => rfl
    | some found => simp [Text.consToCut, Nat.add_assoc]

/-- The parts of a text in front of the arrow and behind it. -/
theorem eq_append_of_splitArrow? {params : List Char}
    (h : FunctionLiteral.splitArrow? text = some (params, rest)) :
    text = params ++ ['=', '>'] ++ rest := by
  fun_induction FunctionLiteral.splitArrow? text generalizing params with
  | case1 => cases h
  | case2 rest =>
    cases h
    rfl
  | case3 c more _ ih =>
    obtain ⟨tail, rfl, htail⟩ := Text.consToCut_eq_some.1 h
    rw [ih htail]
    rfl

/-- The group that starts where a bracket is found first. -/
theorem follows_findGroup? {α β : Type} {S : α → β → Prop} {closer : Char}
    {f : List Char × List Char → Option α} {g : Nat → Slicing β} (h : Place text start rest)
    (c : Char) (hnext : ∀ i more, Place text i (c :: more) →
      Follows S (Text.readGroup? c closer (c :: more) >>= f) (g i)) :
    Follows S (Text.readGroup? c closer (rest.dropWhile (· ≠ c)) >>= f)
      (OptionT.mk (some ((findChar? (fun d => d == c) rest).map (start + ·))) >>= g) := by
  have hnot : (fun d => !(d == c)) = fun d : Char => decide (d ≠ c) := by
    funext d
    by_cases hd : d = c <;> simp [hd]
  have hparts := List.takeWhile_append_dropWhile (p := fun d => decide (d ≠ c)) (l := rest)
  have hhead := List.head?_dropWhile_not (fun d => decide (d ≠ c)) rest
  rw [Text.findChar?_eq, hnot]
  cases hd : rest.dropWhile fun d => decide (d ≠ c) with
  | nil => exact follows_failure
  | cons d more =>
    rw [hd] at hparts hhead
    obtain rfl : d = c := by simpa using hhead
    rw [← hparts] at h
    exact hnext _ more h.append

theorem follows_brackets? (text : List Char) :
    Follows Eq (FunctionLiteral.brackets? text) (brackets? text) := by
  have hfind : OptionT.mk (some (findChar? (fun c => c == '(') text))
      = (OptionT.mk (some ((findChar? (fun c => c == '(') text).map (0 + ·))) : Slicing Nat) := by
    simp
  rw [brackets?, hfind, FunctionLiteral.brackets?]
  refine follows_findGroup? (.zero text) '(' fun start more hstart => ?_
  refine (follows_closing? hstart).bind fun (params, rest) close hclose => ?_
  obtain ⟨hparams, hclose⟩ := hclose
  refine .cut hparams (.cut (firstParam?_eq params) (.cut hclose.sliceFrom? ?_))
  have hdrop : rest.dropWhile (· ≠ '\x7b') = (')' :: rest).dropWhile (· ≠ '\x7b') := rfl
  dsimp only
  rw [hdrop]
  refine follows_findGroup? hclose '\x7b' fun brace more hbrace => ?_
  refine (follows_closing? hbrace).bind fun (body, rest) stop hstop => ?_
  exact .cut hstop.1 (follows_pure rfl)

theorem follows_arrow? {params : List Char} (h : text = params ++ ['=', '>'] ++ rest) :
    Follows Eq (FunctionLiteral.arrow? params rest) (arrow? text (utf8Length params)) := by
  have hparams : sliceTo? text (utf8Length params) = some params :=
    Text.sliceTo?_eq_some_iff.2 ⟨_, h.trans (List.append_assoc ..), rfl⟩
  have hrest : Place text (utf8Length params + 2) rest :=
    ⟨params ++ ['=', '>'], h, by rw [Text.utf8Length_append]; rfl⟩
  obtain ⟨start, hskip, hstart⟩ := exists_skipBlank? hrest
  refine .cut hparams (.cut (firstParam?_eq _) (.cut hskip (.cut hstart.sliceFrom? ?_)))
  rw [FunctionLiteral.arrow?]
  dsimp only
  split
  · rename_i hhead
    obtain ⟨more, hmore⟩ := List.head?_eq_some_iff.1 hhead
    rw [hmore, Option.map_eq_bind]
    refine (follows_closing? (.zero _)).bind fun (body, after) stop hstop => ?_
    exact .cut hstop.1 (follows_pure rfl)
  · exact follows_pure rfl

theorem follows_matched? (text : List Char) :
    Follows Eq (FunctionLiteral.matched? text) (matched? text) := by
  have hfind := findWordFrom?_arrow 0 text
  have hword : "=>".toList = ['=', '>'] := rfl
  rw [matched?, hword, findWord?, hfind, FunctionLiteral.matched?]
  cases hs : FunctionLiteral.splitArrow? text with
  | none => exact follows_brackets? text
  | some found =>
    obtain ⟨params, rest⟩ := found
    simp only [Option.map_some, Nat.zero_add]
    split
    · exact follows_brackets? text
    · exact follows_arrow? (eq_append_of_splitArrow? hs)

theorem function?_eq (text : List Char) : function? text = some (FunctionLiteral.read? text) := by
  rw [function?, FunctionLiteral.read?, (follows_matched? _).run_eq]
  cases FunctionLiteral.whole? text with
  | none => rfl
  | some function => rfl

end ShellQuery.Offset
