import ShellQuery.Proofs.Statement.FunctionLiteral

/-!
# What a reader leaves

A reader of statements finds what it finds without a look at what it leaves.  In a longer text
it finds the same, and leaves more of it.  Here the converse is shown: it finds the same in a
shorter text, as long as that has all that was read (`exists_of_read?_append`).  The base call
and each call of a chain have both properties, and they end with a parenthesis
(`EndsWithParen`).
-/

namespace ShellQuery

open ShellQuery.Text

namespace Text

variable {text rest more : List Char}

/-! ## Shorter texts -/

/-- A text that ends like what is left of it. -/
theorem exists_eq_append_of_suffix (h : rest ++ more <:+ text) : ∃ front, text = front ++ more := by
  obtain ⟨before, rfl⟩ := h
  exact ⟨before ++ rest, by rw [List.append_assoc]⟩

theorem exists_of_skipBlank_append (h : skipBlank text = rest ++ more) :
    ∃ front, text = front ++ more ∧ skipBlank front = rest := by
  obtain ⟨blanks, ht, hblanks⟩ := exists_eq_append_skipBlank text
  refine ⟨blanks ++ rest, by rw [List.append_assoc, ← h, ← ht], ?_⟩
  rw [skipBlank_append hblanks]
  cases rest with
  | nil => rfl
  | cons c rest => exact skipBlank_cons (isBlank_of_skipBlank_eq_cons h) rest

theorem head?_skipBlank_append (h : skipBlank text ≠ []) :
    (skipBlank (text ++ more)).head? = (skipBlank text).head? := by
  rw [skipBlank_append_right h, List.head?_append, List.head?_eq_some_head h, Option.some_or]

theorem exists_of_expectChar?_append {c : Char}
    (h : expectChar? c (skipBlank text) = some (rest ++ more)) :
    ∃ front, text = front ++ more ∧ expectChar? c (skipBlank front) = some rest := by
  have hskip : skipBlank text = (c :: rest) ++ more := expectChar?_eq_some.1 h
  obtain ⟨front, rfl, hfront⟩ := exists_of_skipBlank_append hskip
  exact ⟨front, rfl, expectChar?_eq_some.2 hfront⟩

/-- An identifier is the longest one. -/
theorem readIdent?_eq_some_iff {ident : List Char} :
    readIdent? text = some (ident, rest) ↔ ∃ c tail, ident = c :: tail ∧ text = c :: tail ++ rest
      ∧ isIdentStart c = true ∧ (∀ d ∈ tail, isIdentChar d = true)
      ∧ ∀ d ∈ rest.head?, isIdentChar d = false := by
  constructor
  · intro h
    cases text with
    | nil => cases h
    | cons c tail =>
      simp only [readIdent?, Option.ite_none_right_eq_some, Option.some.injEq, Prod.mk.injEq] at h
      obtain ⟨hc, rfl, rfl⟩ := h
      refine ⟨c, _, rfl, by simp, hc, fun d hd => List.all_eq_true.1 List.all_takeWhile d hd, ?_⟩
      intro d hd
      have hhead := List.head?_dropWhile_not isIdentChar tail
      rw [Option.mem_def.1 hd] at hhead
      simpa using hhead
  · rintro ⟨c, tail, rfl, rfl, hc, htail, hrest⟩
    exact readIdent?_append_eq hc htail hrest

theorem readIdent?_of_append {ident : List Char}
    (h : readIdent? (text ++ more) = some (ident, rest ++ more)) :
    readIdent? text = some (ident, rest) := by
  obtain ⟨c, tail, rfl, htext, hc, htail, hrest⟩ := readIdent?_eq_some_iff.1 h
  rw [← List.append_assoc] at htext
  refine readIdent?_eq_some_iff.2
    ⟨c, tail, rfl, List.append_cancel_right htext, hc, htail, fun d hd => hrest d ?_⟩
  rw [Option.mem_def, List.head?_append, Option.mem_def.1 hd, Option.some_or]

theorem exists_of_readIdent?_append {ident : List Char}
    (h : readIdent? (skipBlank text) = some (ident, rest ++ more)) :
    ∃ front, text = front ++ more ∧ readIdent? (skipBlank front) = some (ident, rest) := by
  obtain ⟨between, hbetween⟩ := exists_eq_append_of_suffix (suffix_of_readIdent? h)
  obtain ⟨front, rfl, hfront⟩ := exists_of_skipBlank_append hbetween
  refine ⟨front, rfl, ?_⟩
  rw [hfront]
  rw [hbetween] at h
  exact readIdent?_of_append h

section

variable {opener closer : Char}

/-- Brackets that enclose groups: two different characters that are no quotes. -/
structure IsBracketPair (opener closer : Char) : Prop where
  opens : isQuote opener = false
  closes : isQuote closer = false
  ne : opener ≠ closer

theorem isBracketPair_parens : IsBracketPair '(' ')' := ⟨by decide, by decide, by decide⟩

theorem isBracketPair_brackets : IsBracketPair '[' ']' := ⟨by decide, by decide, by decide⟩

theorem exists_of_readGroup?_append (hp : IsBracketPair opener closer) {body : List Char}
    (h : readGroup? opener closer text = some (body, rest ++ more)) :
    ∃ front, text = opener :: front ++ more
      ∧ readGroup? opener closer (opener :: front) = some (body, rest) := by
  obtain ⟨htext, hbody⟩ := (readGroup?_eq_some_iff hp.opens hp.closes hp.ne).1 h
  refine ⟨body ++ closer :: rest, by simp [htext], ?_⟩
  exact (readGroup?_eq_some_iff hp.opens hp.closes hp.ne).2 ⟨rfl, hbody⟩

theorem exists_of_readGroup?_skipBlank_append (hp : IsBracketPair opener closer) {body : List Char}
    (h : readGroup? opener closer (skipBlank text) = some (body, rest ++ more)) :
    ∃ front, text = front ++ more
      ∧ readGroup? opener closer (skipBlank front) = some (body, rest) := by
  obtain ⟨between, hbetween, hgroup⟩ := exists_of_readGroup?_append hp h
  obtain ⟨front, rfl, hfront⟩ := exists_of_skipBlank_append hbetween
  exact ⟨front, rfl, by rw [hfront, hgroup]⟩

end

/-- A reader that stops at a parenthesis and does not look at what it leaves. -/
structure EndsWithParen {α : Type} (read : List Char → Option (α × List Char)) : Prop where
  longer : ∀ {text rest : List Char} {a : α}, read text = some (a, rest) →
    ∀ more, read (text ++ more) = some (a, rest ++ more)
  shorter : ∀ {text rest more : List Char} {a : α}, read text = some (a, rest ++ more) →
    ∃ front, text = front ++ more ∧ read front = some (a, rest)
  paren : ∀ {text rest : List Char} {a : α}, read text = some (a, rest) → ')' :: rest <:+ text

end Text

/-! ## The base call -/

namespace BaseCall

variable {text rest more : List Char}

theorem exists_of_readQuotedName?_append {opener closer : Char} (hp : IsBracketPair opener closer)
    {name : List Char} (h : readQuotedName? opener closer text = some (name, rest ++ more)) :
    ∃ front, text = opener :: front ++ more
      ∧ readQuotedName? opener closer (opener :: front) = some (name, rest) := by
  obtain ⟨⟨body, after⟩, hgroup, h⟩ := Option.bind_eq_some_iff.1 h
  obtain ⟨chars, hname, h⟩ := Option.bind_eq_some_iff.1 h
  cases h
  obtain ⟨front, htext, hfront⟩ := exists_of_readGroup?_append hp hgroup
  refine ⟨front, htext, ?_⟩
  rw [readQuotedName?, hfront]
  simp only [Option.bind_eq_bind, Option.bind_some, hname]
  rfl

theorem exists_of_readCollection?_append {name : List Char}
    (h : readCollection? text = some (name, rest ++ more)) :
    ∃ front, text = front ++ more ∧ readCollection? front = some (name, rest) := by
  rw [readCollection?] at h
  dsimp only at h
  split at h
  next =>
    obtain ⟨inner, htext, hinner⟩ := exists_of_readQuotedName?_append isBracketPair_brackets h
    obtain ⟨front, rfl, hfront⟩ := exists_of_skipBlank_append htext
    refine ⟨front, rfl, ?_⟩
    rw [readCollection?, hfront]
    exact hinner
  next hbracket =>
    obtain ⟨dot, hdot, h⟩ := Option.bind_eq_some_iff.1 h
    obtain ⟨⟨ident, after⟩, hident, h⟩ := Option.bind_eq_some_iff.1 h
    dsimp only at h
    have read {afterFront : List Char} (hafter : after = afterFront ++ more)
        (hname : (if ident = "getCollection".toList && (skipBlank afterFront).head? = some '(' then
            readQuotedName? '(' ')' (skipBlank afterFront) else some (ident, afterFront))
          = some (name, rest)) :
        ∃ front, text = front ++ more ∧ readCollection? front = some (name, rest) := by
      subst hafter
      obtain ⟨dotFront, rfl, hidentFront⟩ := exists_of_readIdent?_append hident
      obtain ⟨front, rfl, hdotFront⟩ := exists_of_expectChar?_append hdot
      refine ⟨front, rfl, ?_⟩
      have hl := expectChar?_eq_some.1 hdotFront
      rw [readCollection?, hl]
      simp only [expectChar?, if_true, Option.bind_eq_bind, Option.bind_some, hidentFront]
      exact hname
    split at h
    next hcall =>
      obtain ⟨inner, htext, hinner⟩ := exists_of_readQuotedName?_append isBracketPair_parens h
      obtain ⟨afterFront, rfl, hfront⟩ := exists_of_skipBlank_append htext
      have hne : skipBlank afterFront ≠ [] := by
        rw [hfront]
        exact List.cons_ne_nil _ _
      refine read rfl ?_
      rw [head?_skipBlank_append hne] at hcall
      rw [if_pos hcall, hfront]
      exact hinner
    next hcall =>
      cases h
      refine read rfl (if_neg fun hshort => hcall ?_)
      have hne : skipBlank rest ≠ [] := by
        intro hnil
        rw [hnil] at hshort
        simp at hshort
      rwa [head?_skipBlank_append hne]

/-- A base call is read in the same way from a text without its end, if that end is left. -/
theorem exists_of_read?_append {call : BaseCall} (h : read? text = some (call, rest ++ more)) :
    ∃ front, text = front ++ more ∧ read? front = some (call, rest) := by
  obtain ⟨⟨keyword, afterDb⟩, hdb, h⟩ := Option.bind_eq_some_iff.1 h
  dsimp only at h
  split at h
  next hkeyword =>
    obtain ⟨⟨collection, beforeDot⟩, hcollection, h⟩ := Option.bind_eq_some_iff.1 h
    obtain ⟨dot, hdot, h⟩ := Option.bind_eq_some_iff.1 h
    obtain ⟨⟨operation, beforeArgs⟩, hoperation, h⟩ := Option.bind_eq_some_iff.1 h
    obtain ⟨⟨args, after⟩, hargs, h⟩ := Option.bind_eq_some_iff.1 h
    cases h
    obtain ⟨_, rfl, hargs'⟩ := exists_of_readGroup?_skipBlank_append isBracketPair_parens hargs
    obtain ⟨_, rfl, hoperation'⟩ := exists_of_readIdent?_append hoperation
    obtain ⟨_, rfl, hdot'⟩ := exists_of_expectChar?_append hdot
    obtain ⟨_, rfl, hcollection'⟩ := exists_of_readCollection?_append hcollection
    obtain ⟨front, rfl⟩ := exists_eq_append_of_suffix (suffix_of_readIdent? hdb)
    refine ⟨front, rfl, ?_⟩
    simp only [read?, Option.bind_eq_bind, Option.bind_some, readIdent?_of_append hdb, hkeyword,
      if_true, hcollection', hdot', hoperation', hargs']
    rfl
  next => cases h

/-- A base call ends with a parenthesis and is read without a look at what is left. -/
theorem endsWithParen_read? : EndsWithParen read? :=
  ⟨read?_append_right, exists_of_read?_append, suffix_of_read?⟩

end BaseCall

/-! ## A call of a chain -/

namespace CursorCall

variable {text rest more : List Char} {call : CursorCall}

/-- Reads one call and leaves the blanks after it. -/
def readCall? (text : List Char) : Option (CursorCall × List Char) := do
  let (name, rest) ← readIdent? (skipBlank (← expectChar? '.' text))
  let (args, rest) ← readGroup? '(' ')' (skipBlank rest)
  pure (⟨String.ofList name, String.ofList (trim args)⟩, rest)

theorem read?_eq_map (text : List Char) :
    read? text = (readCall? text).map fun (call, rest) => (call, skipBlank rest) := by
  rw [read?, readCall?]
  cases expectChar? '.' text with
  | none => rfl
  | some dot =>
    simp only [Option.bind_eq_bind, Option.bind_some]
    cases readIdent? (skipBlank dot) with
    | none => rfl
    | some named =>
      simp only [Option.bind_some]
      cases readGroup? '(' ')' (skipBlank named.2) <;> rfl

theorem exists_of_readCall? (h : readCall? text = some (call, rest)) :
    ∃ dot name beforeArgs args, expectChar? '.' text = some dot
      ∧ readIdent? (skipBlank dot) = some (name, beforeArgs)
      ∧ readGroup? '(' ')' (skipBlank beforeArgs) = some (args, rest)
      ∧ call = ⟨String.ofList name, String.ofList (trim args)⟩ := by
  obtain ⟨dot, hdot, h⟩ := Option.bind_eq_some_iff.1 h
  obtain ⟨⟨name, beforeArgs⟩, hname, h⟩ := Option.bind_eq_some_iff.1 h
  obtain ⟨⟨args, after⟩, hargs, h⟩ := Option.bind_eq_some_iff.1 h
  cases h
  exact ⟨dot, name, beforeArgs, args, hdot, hname, hargs, rfl⟩

theorem readCall?_append_right (h : readCall? text = some (call, rest)) (more : List Char) :
    readCall? (text ++ more) = some (call, rest ++ more) := by
  obtain ⟨dot, name, beforeArgs, args, hdot, hname, hargs, rfl⟩ := exists_of_readCall? h
  have hbeforeArgs : skipBlank beforeArgs ≠ [] := by
    intro hnil
    rw [hnil] at hargs
    cases hargs
  simp only [readCall?, Option.bind_eq_bind, Option.bind_some, expectChar?_append_right hdot,
    readIdent?_skipBlank_append_right hname hbeforeArgs, readGroup?_skipBlank_append_right hargs]
  rfl

theorem exists_of_readCall?_append (h : readCall? text = some (call, rest ++ more)) :
    ∃ front, text = front ++ more ∧ readCall? front = some (call, rest) := by
  obtain ⟨dot, name, beforeArgs, args, hdot, hname, hargs, rfl⟩ := exists_of_readCall? h
  obtain ⟨_, rfl, hargs'⟩ := exists_of_readGroup?_skipBlank_append isBracketPair_parens hargs
  obtain ⟨dot, rfl, hname'⟩ := exists_of_readIdent?_append hname
  refine ⟨'.' :: dot, expectChar?_eq_some.1 hdot, ?_⟩
  simp only [readCall?, expectChar?, if_true, Option.bind_eq_bind, Option.bind_some, hname', hargs']
  rfl

theorem suffix_of_readCall? (h : readCall? text = some (call, rest)) : ')' :: rest <:+ text := by
  obtain ⟨dot, name, beforeArgs, args, hdot, hname, hargs, -⟩ := exists_of_readCall? h
  exact (suffix_of_readGroup? hargs).trans <| (skipBlank_suffix beforeArgs).trans <|
    (suffix_of_readIdent? hname).trans <| (skipBlank_suffix dot).trans (suffix_of_expectChar? hdot)

theorem endsWithParen_readCall? : EndsWithParen readCall? :=
  ⟨readCall?_append_right, exists_of_readCall?_append, suffix_of_readCall?⟩

end CursorCall

end ShellQuery
