import ShellQuery.Proofs.Json.Literal
import ShellQuery.Proofs.Operation.Chain
import ShellQuery.Proofs.Statement.Split
import ShellQuery.Statement.Parse

/-!
# What follows the base call

A base call alone is compared with the same base call in front of any other text.

Each reader of the base call ends at a character that it has seen: an identifier at the
first character that does not go on with it, a group at the bracket that closes it.  So a
reader finds the same in a longer text, and leaves more of it (`read?_append_right`).  The
base call ends with a parenthesis, which neither trimming nor the dropping of semicolons
takes away.  What follows is therefore read as a chain and as nothing else
(`parseStatement_append_eq`), and a chain is not able to fail.
-/

namespace ShellQuery

open ShellQuery.Text

namespace Text

/-! ## Longer texts -/

theorem skipBlank_append_right {text : List Char} (h : skipBlank text ≠ []) (more : List Char) :
    skipBlank (text ++ more) = skipBlank text ++ more := by
  rw [skipBlank, List.dropWhile_append, ← skipBlank, if_neg (by simpa using h)]

theorem readIdent?_append_right {text ident rest : List Char}
    (h : readIdent? text = some (ident, rest)) (hrest : rest ≠ []) (more : List Char) :
    readIdent? (text ++ more) = some (ident, rest ++ more) := by
  obtain ⟨c, after, rfl⟩ := List.exists_cons_of_ne_nil hrest
  cases text with
  | nil => cases h
  | cons d tail =>
    simp only [readIdent?, Option.ite_none_right_eq_some, Option.some.injEq, Prod.mk.injEq] at h
    obtain ⟨hd, rfl, hafter⟩ := h
    have hc : isIdentChar c = false := by
      have hh := List.head?_dropWhile_not isIdentChar tail
      rw [hafter] at hh
      simpa using hh
    have hchars : ∀ x ∈ tail.takeWhile isIdentChar, isIdentChar x = true :=
      List.all_eq_true.1 List.all_takeWhile
    have hstop : ∀ x ∈ (c :: after ++ more).head?, isIdentChar x = false := by
      rintro _ ⟨⟩
      exact hc
    have htail : tail = tail.takeWhile isIdentChar ++ c :: after := by
      rw [← hafter, List.takeWhile_append_dropWhile]
    rw [← readIdent?_append_eq hd hchars hstop, List.cons_append, List.cons_append,
      ← List.append_assoc, ← htail]

theorem expectChar?_append_right {c : Char} {text rest : List Char}
    (h : expectChar? c text = some rest) (more : List Char) :
    expectChar? c (text ++ more) = some (rest ++ more) := by
  rw [expectChar?_eq_some] at h
  rw [h]
  exact expectChar?_eq_some.2 rfl

/-- The bracket that closes a group is found without a look at what follows it. -/
theorem splitGroupFrom?_append_right {opener closer : Char} {state : QuoteState} {depth : Nat}
    {text group after : List Char}
    (h : splitGroupFrom? opener closer state depth text = some (group, after))
    (more : List Char) :
    splitGroupFrom? opener closer state depth (text ++ more) = some (group, after ++ more) := by
  induction text generalizing state depth group with
  | nil => cases h
  | cons c rest ih =>
    have step {state' : QuoteState} {depth' : Nat}
        (hc : consToCut c (splitGroupFrom? opener closer state' depth' rest)
          = some (group, after)) :
        consToCut c (splitGroupFrom? opener closer state' depth' (rest ++ more))
          = some (group, after ++ more) := by
      obtain ⟨tail, rfl, ht⟩ := consToCut_eq_some.1 hc
      exact consToCut_eq_some.2 ⟨tail, rfl, ih ht⟩
    rw [splitGroupFrom?] at h
    rw [List.cons_append, splitGroupFrom?]
    split at h
    next hcovers => rw [if_pos hcovers]; exact step h
    next hcovers =>
      rw [if_neg hcovers]
      split at h
      next hopen => rw [if_pos hopen]; exact step h
      next hopen =>
        rw [if_neg hopen]
        split at h
        next hclose =>
          rw [if_pos hclose]
          split at h
          next hzero =>
            rw [if_pos hzero]
            cases h
            rfl
          next hzero => rw [if_neg hzero]; exact step h
        next hclose => rw [if_neg hclose]; exact step h

theorem readGroup?_append_right {opener closer : Char} {text body after : List Char}
    (h : readGroup? opener closer text = some (body, after)) (more : List Char) :
    readGroup? opener closer (text ++ more) = some (body, after ++ more) := by
  cases text with
  | nil => cases h
  | cons c rest =>
    simp only [readGroup?, Option.ite_none_right_eq_some] at h
    obtain ⟨hc, h⟩ := h
    obtain ⟨⟨group, after'⟩, hg, he⟩ := Option.map_eq_some_iff.1 h
    cases he
    rw [List.cons_append, readGroup?, if_pos hc, ← List.cons_append, splitGroup?,
      splitGroupFrom?_append_right hg]
    rfl

/-! ## Longer texts behind blanks -/

theorem expectChar?_skipBlank_append_right {c : Char} {text rest : List Char}
    (h : expectChar? c (skipBlank text) = some rest) (more : List Char) :
    expectChar? c (skipBlank (text ++ more)) = some (rest ++ more) := by
  have hne : skipBlank text ≠ [] := by
    rw [expectChar?_eq_some.1 h]
    nofun
  rw [skipBlank_append_right hne]
  exact expectChar?_append_right h more

/-- An identifier is the same in a longer text if more than blanks follow it. -/
theorem readIdent?_skipBlank_append_right {text ident rest : List Char}
    (h : readIdent? (skipBlank text) = some (ident, rest)) (hrest : skipBlank rest ≠ [])
    (more : List Char) : readIdent? (skipBlank (text ++ more)) = some (ident, rest ++ more) := by
  have hne : skipBlank text ≠ [] := by
    intro hn
    rw [hn] at h
    cases h
  rw [skipBlank_append_right hne]
  refine readIdent?_append_right h (fun hn => hrest ?_) more
  rw [hn, skipBlank_nil]

theorem readGroup?_skipBlank_append_right {opener closer : Char} {text body after : List Char}
    (h : readGroup? opener closer (skipBlank text) = some (body, after)) (more : List Char) :
    readGroup? opener closer (skipBlank (text ++ more)) = some (body, after ++ more) := by
  have hne : skipBlank text ≠ [] := by
    intro hn
    rw [hn] at h
    cases h
  rw [skipBlank_append_right hne]
  exact readGroup?_append_right h more

/-! ## The closing bracket of a group -/

theorem exists_group_concat {opener closer : Char} {state : QuoteState} {depth : Nat}
    {text group after : List Char}
    (h : splitGroupFrom? opener closer state depth text = some (group, after)) :
    ∃ front, group = front ++ [closer] := by
  induction text generalizing state depth group with
  | nil => cases h
  | cons c rest ih =>
    have step {state' : QuoteState} {depth' : Nat}
        (hc : consToCut c (splitGroupFrom? opener closer state' depth' rest)
          = some (group, after)) : ∃ front, group = front ++ [closer] := by
      obtain ⟨tail, rfl, ht⟩ := consToCut_eq_some.1 hc
      obtain ⟨front, rfl⟩ := ih ht
      exact ⟨c :: front, rfl⟩
    rw [splitGroupFrom?] at h
    split at h
    next => exact step h
    next =>
      split at h
      next => exact step h
      next =>
        split at h
        next hclose =>
          split at h
          next => cases h; exact ⟨[], by rw [hclose]; rfl⟩
          next => exact step h
        next => exact step h

/-- In front of what a group leaves stands the bracket that closes it. -/
theorem suffix_of_readGroup? {opener closer : Char} {text body after : List Char}
    (h : readGroup? opener closer text = some (body, after)) : closer :: after <:+ text := by
  cases text with
  | nil => cases h
  | cons c rest =>
    simp only [readGroup?, Option.ite_none_right_eq_some] at h
    obtain ⟨⟨group, after'⟩, hg, he⟩ := Option.map_eq_some_iff.1 h.2
    cases he
    obtain ⟨front, rfl⟩ := exists_group_concat hg
    refine ⟨front, ?_⟩
    rw [← (splitGroupFrom?_append hg).2, List.append_assoc]
    rfl

theorem skipBlank_suffix (text : List Char) : skipBlank text <:+ text :=
  List.dropWhile_suffix isBlank

theorem suffix_of_readIdent? {text ident rest : List Char}
    (h : readIdent? text = some (ident, rest)) : rest <:+ text := ⟨ident, readIdent?_append h⟩

theorem suffix_of_expectChar? {c : Char} {text rest : List Char}
    (h : expectChar? c text = some rest) : rest <:+ text := by
  rw [expectChar?_eq_some.1 h]
  exact List.suffix_cons c rest

/-! ## The end of a text -/

/-- What is dropped at the end of a text does not reach over a character that stays. -/
theorem reverse_dropWhile_reverse_append {α : Type} {p : α → Bool} {c : α} (hc : p c = false)
    (front rest : List α) :
    ((front ++ c :: rest).reverse.dropWhile p).reverse
      = front ++ c :: (rest.reverse.dropWhile p).reverse := by
  have hkeep : (c :: front.reverse).dropWhile p = c :: front.reverse :=
    List.dropWhile_cons_of_neg (by simp [hc])
  have hr : (front ++ c :: rest).reverse = rest.reverse ++ c :: front.reverse := by simp
  rw [hr, List.dropWhile_append]
  split
  next hnil =>
    rw [List.isEmpty_iff] at hnil
    simp [hkeep, hnil]
  next => simp

theorem trimEnd_append_cons {c : Char} (hc : isBlank c = false) (front rest : List Char) :
    trimEnd (front ++ c :: rest) = front ++ c :: trimEnd rest :=
  reverse_dropWhile_reverse_append hc front rest

end Text

/-! ## The base call in a longer text -/

namespace BaseCall

theorem readQuotedName?_append_right {opener closer : Char} {text name rest : List Char}
    (h : readQuotedName? opener closer text = some (name, rest)) (more : List Char) :
    readQuotedName? opener closer (text ++ more) = some (name, rest ++ more) := by
  obtain ⟨⟨body, after⟩, hgroup, h⟩ := Option.bind_eq_some_iff.1 h
  obtain ⟨chars, hname, h⟩ := Option.bind_eq_some_iff.1 h
  cases h
  rw [readQuotedName?, readGroup?_append_right hgroup]
  simp only [Option.bind_eq_bind, Option.bind_some, hname]
  rfl

/-- A collection is the same in a longer text if more than blanks follow it. -/
theorem readCollection?_append_right {text name rest : List Char}
    (h : readCollection? text = some (name, rest)) (hrest : skipBlank rest ≠ [])
    (more : List Char) : readCollection? (text ++ more) = some (name, rest ++ more) := by
  rw [readCollection?] at h
  dsimp only at h
  split at h
  next tail hs =>
    have hl : skipBlank (text ++ more) = '[' :: (tail ++ more) := by
      rw [skipBlank_append_right (by rw [hs]; nofun), hs]
      rfl
    rw [hs] at h
    rw [readCollection?, hl]
    exact readQuotedName?_append_right h more
  next hs =>
    obtain ⟨dot, hdot, h⟩ := Option.bind_eq_some_iff.1 h
    obtain ⟨⟨ident, after⟩, hident, h⟩ := Option.bind_eq_some_iff.1 h
    dsimp only at h
    -- Both a quoted name and an identifier are followed by more than blanks.
    have hafter : skipBlank after ≠ [] := by
      split at h
      next hcall =>
        intro hn
        rw [hn] at hcall
        simp at hcall
      next =>
        cases h
        exact hrest
    have hhead : (skipBlank after ++ more).head? = (skipBlank after).head? := by
      rw [List.head?_append, List.head?_eq_some_head hafter, Option.some_or]
    have hl := expectChar?_eq_some.1 (expectChar?_skipBlank_append_right hdot more)
    rw [readCollection?, hl]
    simp only [expectChar?, if_true, Option.bind_eq_bind, Option.bind_some,
      readIdent?_skipBlank_append_right hident hafter, skipBlank_append_right hafter, hhead]
    split at h
    next hcall =>
      rw [if_pos hcall]
      exact readQuotedName?_append_right h more
    next hcall =>
      rw [if_neg hcall]
      cases h
      rfl

/-- A base call is read in the same way in front of any text. -/
theorem read?_append_right {text rest : List Char} {call : BaseCall}
    (h : read? text = some (call, rest)) (more : List Char) :
    read? (text ++ more) = some (call, rest ++ more) := by
  obtain ⟨⟨keyword, afterDb⟩, hdb, h⟩ := Option.bind_eq_some_iff.1 h
  dsimp only at h
  split at h
  next hkeyword =>
    obtain ⟨⟨collection, beforeDot⟩, hcollection, h⟩ := Option.bind_eq_some_iff.1 h
    obtain ⟨dot, hdot, h⟩ := Option.bind_eq_some_iff.1 h
    obtain ⟨⟨operation, beforeArgs⟩, hoperation, h⟩ := Option.bind_eq_some_iff.1 h
    obtain ⟨⟨args, after⟩, hargs, h⟩ := Option.bind_eq_some_iff.1 h
    cases h
    have hafterDb : afterDb ≠ [] := by
      rintro rfl
      cases hcollection
    have hbeforeDot : skipBlank beforeDot ≠ [] := by
      rw [expectChar?_eq_some.1 hdot]
      nofun
    have hbeforeArgs : skipBlank beforeArgs ≠ [] := by
      intro hn
      rw [hn] at hargs
      cases hargs
    simp only [read?, Option.bind_eq_bind, Option.bind_some,
      readIdent?_append_right hdb hafterDb, hkeyword, if_true,
      readCollection?_append_right hcollection hbeforeDot,
      expectChar?_skipBlank_append_right hdot,
      readIdent?_skipBlank_append_right hoperation hbeforeArgs,
      readGroup?_skipBlank_append_right hargs]
    rfl
  next => cases h

theorem suffix_of_readQuotedName? {opener closer : Char} {text name rest : List Char}
    (h : readQuotedName? opener closer text = some (name, rest)) : rest <:+ text := by
  obtain ⟨⟨body, after⟩, hgroup, h⟩ := Option.bind_eq_some_iff.1 h
  obtain ⟨chars, -, h⟩ := Option.bind_eq_some_iff.1 h
  cases h
  exact (List.suffix_cons closer rest).trans (suffix_of_readGroup? hgroup)

theorem suffix_of_readCollection? {text name rest : List Char}
    (h : readCollection? text = some (name, rest)) : rest <:+ text := by
  rw [readCollection?] at h
  dsimp only at h
  split at h
  next => exact (suffix_of_readQuotedName? h).trans (skipBlank_suffix text)
  next =>
    obtain ⟨dot, hdot, h⟩ := Option.bind_eq_some_iff.1 h
    obtain ⟨⟨ident, after⟩, hident, h⟩ := Option.bind_eq_some_iff.1 h
    have hafter : after <:+ text :=
      (suffix_of_readIdent? hident).trans <| (skipBlank_suffix dot).trans <|
        (suffix_of_expectChar? hdot).trans (skipBlank_suffix text)
    dsimp only at h
    split at h
    next => exact (suffix_of_readQuotedName? h).trans ((skipBlank_suffix after).trans hafter)
    next =>
      cases h
      exact hafter

/-- A base call ends with a parenthesis. -/
theorem suffix_of_read? {text rest : List Char} {call : BaseCall}
    (h : read? text = some (call, rest)) : ')' :: rest <:+ text := by
  obtain ⟨⟨keyword, afterDb⟩, hdb, h⟩ := Option.bind_eq_some_iff.1 h
  dsimp only at h
  split at h
  next =>
    obtain ⟨⟨collection, beforeDot⟩, hcollection, h⟩ := Option.bind_eq_some_iff.1 h
    obtain ⟨dot, hdot, h⟩ := Option.bind_eq_some_iff.1 h
    obtain ⟨⟨operation, beforeArgs⟩, hoperation, h⟩ := Option.bind_eq_some_iff.1 h
    obtain ⟨⟨args, after⟩, hargs, h⟩ := Option.bind_eq_some_iff.1 h
    cases h
    exact (suffix_of_readGroup? hargs).trans <| (skipBlank_suffix beforeArgs).trans <|
      (suffix_of_readIdent? hoperation).trans <| (skipBlank_suffix dot).trans <|
      (suffix_of_expectChar? hdot).trans <| (skipBlank_suffix beforeDot).trans <|
      (suffix_of_readCollection? hcollection).trans (suffix_of_readIdent? hdb)
  next => cases h

end BaseCall

/-! ## The statement -/

/-- The text of a base call with nothing behind it ends with a parenthesis. -/
theorem exists_trim_of_extract {statement : String} {call : BaseCall}
    (h : BaseCall.extract statement = .ok (call, [])) :
    BaseCall.read? (trim statement.toList) = some (call, [])
      ∧ ∃ front, trim statement.toList = front ++ [')'] := by
  rw [BaseCall.extract] at h
  cases hr : BaseCall.read? (trim statement.toList) with
  | none => rw [hr] at h; cases h
  | some result =>
    rw [hr] at h
    cases h
    obtain ⟨front, hf⟩ := BaseCall.suffix_of_read? hr
    exact ⟨rfl, front, hf.symm⟩

/-- A text that trimming leaves as it is stays the front of a longer text. -/
theorem trim_append_right {text front : List Char} {c : Char} (hc : isBlank c = false)
    (h : trim text = front ++ [c]) (more : List Char) :
    trim (trim text ++ more) = trim text ++ trimEnd more := by
  have hskip : skipBlank (trim text) = trim text := skipBlank_trimEnd_skipBlank text
  have hne : skipBlank (trim text) ≠ [] := by
    rw [hskip, h]
    simp
  have hmore : ∀ rest, trim text ++ rest = front ++ c :: rest := fun rest => by rw [h]; simp
  rw [trim, skipBlank_append_right hne, hskip, hmore, trimEnd_append_cons hc, hmore]

/-- The end of a statement without its last semicolons. -/
def bareEnd (text : List Char) : List Char := trimEnd (dropSemicolons (trimEnd text))

/-- A statement keeps its text up to a character that is neither a blank nor a semicolon.  What
follows loses semicolons and blanks at its end. -/
theorem exists_bareStatement_append {c : Char} (hc : isBlank c = false) (hsemicolon : c ≠ ';')
    {text front : List Char} (h : trim text = front ++ [c]) :
    ∃ blanks, (∀ d ∈ blanks, isBlank d = true)
      ∧ ∀ more, bareStatement (text ++ more) = trim text ++ bareEnd (blanks ++ more) := by
  obtain ⟨before, after, ht, hbefore, hafter⟩ := ScanState.exists_eq_trim text
  refine ⟨after, hafter, fun more => ?_⟩
  have hnil : ∀ d ∈ ([] : List Char), isBlank d = true := by simp
  have hlonger : text ++ more = before ++ (trim text ++ (after ++ more)) ++ [] := by
    rw [List.append_nil, ← List.append_assoc, ← List.append_assoc, ← ht]
  have hdrop : ∀ rest, dropSemicolons (trim text ++ rest) = trim text ++ dropSemicolons rest := by
    intro rest
    have hd := reverse_dropWhile_reverse_append (p := (· == ';')) (beq_false_of_ne hsemicolon)
      front rest
    rw [h, List.append_assoc, List.append_assoc]
    exact hd
  rw [bareStatement, hlonger, trim_append_append hbefore hnil, trim_append_right hc h,
    hdrop, trim_append_right hc h, bareEnd]

/-- A base call with a text behind it comes to the base call with the chain of that text.
The error of an argument or of the operation does not depend on the chain. -/
theorem parseStatement_append_eq {statement : String} {call : BaseCall}
    (h : BaseCall.extract statement = .ok (call, [])) :
    ∃ blanks, (∀ c ∈ blanks, isBlank c = true) ∧ ∀ more : String,
      parseStatement (statement ++ more) = (do
        let args ← Argument.normalize call.args.toList
        Descriptor.ofCalls call (CursorCall.chain (bareEnd (blanks ++ more.toList))) args) := by
  obtain ⟨hread, front, hfront⟩ := exists_trim_of_extract h
  obtain ⟨blanks, hblanks, hbare⟩ :=
    exists_bareStatement_append (by decide) (by decide) hfront
  refine ⟨blanks, hblanks, fun more => ?_⟩
  have hne : (trim statement.toList ++ bareEnd (blanks ++ more.toList)).isEmpty = false := by
    rw [hfront]
    simp
  have hend : trimEnd (bareEnd (blanks ++ more.toList)) = bareEnd (blanks ++ more.toList) :=
    trimEnd_trimEnd _
  have hextract : BaseCall.extract
      (String.ofList (trim statement.toList ++ bareEnd (blanks ++ more.toList)))
        = .ok (call, bareEnd (blanks ++ more.toList)) := by
    rw [BaseCall.extract, String.toList_ofList, trim_append_right (by decide) hfront, hend,
      BaseCall.read?_append_right hread]
    rfl
  rw [parseStatement, String.toList_append, hbare, hne, if_neg Bool.false_ne_true, hextract]
  rfl

/-! ## The same target -/

/-- Two descriptors address the same, the first without a chain and the second with one. -/
structure Descriptor.SameTarget (d d' : Descriptor) : Prop where
  collection : d'.collection = d.collection
  data : d'.data = d.data
  projection : d'.options.projection = d.options.projection
  upsert : d'.options.upsert = d.options.upsert
  many : d'.options.many = d.options.many
  kind : d'.kind = d.kind ∨ d.kind = .find ∧ d'.kind = .count

/-- Two statements come to the same target or have the same error. -/
inductive SameOutcome : Except ParseError (Descriptor × List Warning) →
    Except ParseError (Descriptor × List Warning) → Prop
  | accepted {d d' : Descriptor} (warnings warnings' : List Warning) (h : d.SameTarget d') :
      SameOutcome (.ok (d, warnings)) (.ok (d', warnings'))
  | rejected (e : ParseError) : SameOutcome (.error e) (.error e)

theorem sameOutcome_ofCalls (call : BaseCall) (chain : List CursorCall) (args : List Json) :
    SameOutcome (Descriptor.ofCalls call [] args) (Descriptor.ofCalls call chain args) := by
  cases hbase : OperationKind.ofOperation? call.operation with
  | none =>
    rw [Descriptor.ofCalls, Descriptor.ofCalls, hbase]
    exact .rejected _
  | some base =>
    have hnone : Mapping.reclassify base [] = (base, none) := by
      rw [Mapping.reclassify]
      split <;> rfl
    rw [Mapping.ofCalls_eq hbase, Mapping.ofCalls_eq hbase, hnone]
    refine .accepted _ _ ⟨rfl, rfl, rfl, rfl, rfl, ?_⟩
    obtain hsame | ⟨hfind, mode, hcount⟩ := Mapping.reclassify_cases base chain
    · exact .inl (by rw [hsame])
    · exact .inr ⟨hfind, by rw [hcount]⟩

/-- Whatever follows a base call, the statement is accepted or fails as the base call alone,
with the same error, and it addresses the same. -/
theorem parseStatement_append {statement : String} {call : BaseCall}
    (h : BaseCall.extract statement = .ok (call, [])) (more : String) :
    SameOutcome (parseStatement statement) (parseStatement (statement ++ more)) := by
  obtain ⟨blanks, hblanks, hparse⟩ := parseStatement_append_eq h
  have hend : bareEnd blanks = [] := by
    rw [bareEnd, show trimEnd blanks = [] from trimEnd_append hblanks []]
    rfl
  have hchain : CursorCall.chain [] = [] := by
    rw [CursorCall.chain, CursorCall.readAll]
    rfl
  have halone := hparse ""
  rw [String.append_empty, String.toList_empty, List.append_nil, hend, hchain] at halone
  rw [halone, hparse more]
  cases Argument.normalize call.args.toList with
  | error e => exact .rejected e
  | ok args => exact sameOutcome_ofCalls call _ args

/-- A find and an update, each in front of a text that no reader can make sense of. -/
theorem parseStatement_append_garbage :
    (∃ call, BaseCall.extract "db.c.find(\x7b\x7d, \x7ba: 1\x7d) " = .ok (call, [])
      ∧ (parseStatement "db.c.find(\x7b\x7d, \x7ba: 1\x7d) ").isOk = true
      ∧ SameOutcome (parseStatement "db.c.find(\x7b\x7d, \x7ba: 1\x7d) ")
        (parseStatement ("db.c.find(\x7b\x7d, \x7ba: 1\x7d) " ++ ".limit('x').count()) [\" ;")))
    ∧ ∃ call, BaseCall.extract "db.c.update(\x7b)" = .ok (call, [])
      ∧ SameOutcome (parseStatement "db.c.update(\x7b)")
        (parseStatement ("db.c.update(\x7b)" ++ ".sort(")) := by
  have hextract {s : String} {call : BaseCall}
      (h : BaseCall.read? (trim s.toList) = some (call, [])) :
      BaseCall.extract s = .ok (call, []) := by rw [BaseCall.extract, h]
  have hfind : BaseCall.extract "db.c.find(\x7b\x7d, \x7ba: 1\x7d) "
      = .ok (⟨"c", "find", "\x7b\x7d, \x7ba: 1\x7d"⟩, []) := hextract (by decide +kernel)
  have hupdate : BaseCall.extract "db.c.update(\x7b)" = .ok (⟨"c", "update", "\x7b"⟩, []) :=
    hextract (by decide +kernel)
  exact ⟨⟨_, hfind, by decide +kernel, parseStatement_append hfind _⟩,
    ⟨_, hupdate, parseStatement_append hupdate _⟩⟩

end ShellQuery
