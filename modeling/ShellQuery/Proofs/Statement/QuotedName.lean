import ShellQuery.Proofs.Json.Literal
import ShellQuery.Proofs.Text.Group
import ShellQuery.Statement.BaseCall

/-!
# Quoted names and string literals

A collection may be named by a string literal, in brackets behind `db` or in the parentheses
of `getCollection`.  The bracket that closes is found with string literals in view.  The name
is found without: it is what stands between the first and the last character, if these are the
same quote (`unquote?_eq_some_iff`).

So what stands in the brackets need not be one literal, and if it is, the name need not be what
the literal stands for.  Both are the case exactly if the name has neither its own quote nor a
backslash (`isNameLiteral_iff`).  What a backslash makes of the characters behind it is left
open: `Escapes` asks only that it does not make more of them.
-/

namespace ShellQuery

open ShellQuery.Text

/-! ## What a literal stands for -/

/-- A rule for the backslashes in a literal. -/
structure Escapes where
  /-- Behind a backslash the first characters stand for the second ones. -/
  Means : List Char → List Char → Prop
  /-- They do not stand for more characters than they are. -/
  length_le : ∀ {e s : List Char}, Means e s → s.length ≤ e.length

namespace Escapes

/-- The escapes of JSON. -/
def json : Escapes where
  Means e s := ∃ c, Json.IsEscape e c ∧ s = [c]
  length_le := by
    rintro e s ⟨c, he, rfl⟩
    cases he with
    | simple => exact Nat.le_refl 1
    | unit => exact Nat.succ_le_succ (Nat.zero_le _)
    | pair => exact Nat.succ_le_succ (Nat.zero_le _)

/-- Between two quotes `q` the first text stands for the second one. -/
inductive Denotes (x : Escapes) (q : Char) : List Char → List Char → Prop where
  /-- Nothing. -/
  | nil : Denotes x q [] []
  /-- A character that stands for itself. -/
  | char {c : Char} {w s : List Char} : c ≠ q → c ≠ '\\' → Denotes x q w s →
      Denotes x q (c :: w) (c :: s)
  /-- A backslash and the characters that belong to it. -/
  | escape {e s w t : List Char} : x.Means e s → Denotes x q w t →
      Denotes x q ('\\' :: e ++ w) (s ++ t)

/-- A text is one string literal in single or double quotes, not empty and closed by its last
character only, and stands for a name. -/
inductive IsNameLiteral (x : Escapes) : List Char → List Char → Prop where
  /-- The quotes around a body. -/
  | quoted {q : Char} {body name : List Char} : q = '"' ∨ q = '\'' → body ≠ [] →
      IsLiteralBody q (body ++ [q]) → x.Denotes q body name →
      IsNameLiteral x (q :: body ++ [q]) name

variable {x : Escapes} {q : Char}

/-- A literal with a backslash is longer than what it stands for. -/
theorem Denotes.length_lt {w s : List Char} (h : x.Denotes q w s) :
    s.length ≤ w.length ∧ ('\\' ∈ w → s.length < w.length) := by
  induction h with
  | nil => exact ⟨Nat.le_refl 0, nofun⟩
  | @char c w s _ hb _ ih =>
    refine ⟨Nat.succ_le_succ ih.1, fun hmem => Nat.succ_lt_succ (ih.2 ?_)⟩
    exact (List.mem_cons.1 hmem).resolve_left hb.symm
  | @escape e s w t he _ ih =>
    have hlt : (s ++ t).length < ('\\' :: e ++ w).length := by
      have hle := x.length_le he
      simp only [List.length_append, List.length_cons]
      omega
    exact ⟨Nat.le_of_lt hlt, fun _ => hlt⟩

/-- Only a backslash takes the quote into a literal. -/
theorem Denotes.quote_notMem {w s : List Char} (h : x.Denotes q w s) (hb : '\\' ∉ w) : q ∉ w := by
  induction h with
  | nil => nofun
  | char hc _ _ ih =>
    rw [List.mem_cons, not_or] at hb ⊢
    exact ⟨Ne.symm hc, ih hb.2⟩
  | escape => exact absurd List.mem_cons_self hb

/-- The texts that stand for themselves. -/
theorem denotes_self_iff {w : List Char} : x.Denotes q w w ↔ q ∉ w ∧ '\\' ∉ w := by
  constructor
  · intro h
    have hb : '\\' ∉ w := fun hmem => Nat.lt_irrefl _ (h.length_lt.2 hmem)
    exact ⟨h.quote_notMem hb, hb⟩
  · rintro ⟨hq, hb⟩
    induction w with
    | nil => exact .nil
    | cons c w ih =>
      rw [List.mem_cons, not_or] at hq hb
      exact .char (Ne.symm hq.1) (Ne.symm hb.1) (ih hq.2 hb.2)

/-- What stands between two quotes is a literal for itself if it has neither that quote nor a
backslash. -/
theorem isNameLiteral_iff {name : List Char} (hq : q = '"' ∨ q = '\'') (hne : name ≠ []) :
    x.IsNameLiteral (q :: name ++ [q]) name ↔ q ∉ name ∧ '\\' ∉ name := by
  constructor
  · generalize htext : q :: name ++ [q] = text
    rintro ⟨-, -, -, hdenotes⟩
    obtain ⟨rfl, htail⟩ := List.cons.inj htext
    rw [← List.append_cancel_right htail] at hdenotes
    exact denotes_self_iff.1 hdenotes
  · intro hclean
    refine .quoted hq hne ?_ (denotes_self_iff.2 hclean)
    refine isLiteralBody_append (fun c hc => ⟨?_, ?_⟩) (.close q)
    · rintro rfl
      exact hclean.1 hc
    · rintro rfl
      exact hclean.2 hc

end Escapes

/-! ## Reading a quoted name -/

/-- A quoted name is what stands between two equal quotes. -/
theorem unquote?_eq_some_iff {content name : List Char} :
    unquote? content = some name ↔
      ∃ q, (q = '"' ∨ q = '\'') ∧ trim content = q :: name ++ [q] ∧ name ≠ [] := by
  rw [unquote?]
  constructor
  · intro h
    split at h
    next q body htrim =>
      rw [Option.ite_none_right_eq_some] at h
      obtain ⟨hcond, hname⟩ := h
      cases hname
      simp only [Bool.and_eq_true, Bool.or_eq_true, decide_eq_true_eq, Bool.not_eq_true',
        List.isEmpty_eq_false_iff] at hcond
      obtain ⟨⟨hq, hlast⟩, hne⟩ := hcond
      obtain ⟨front, rfl⟩ := List.getLast?_eq_some_iff.1 hlast
      rw [List.dropLast_concat] at hne ⊢
      exact ⟨q, hq, htrim, hne⟩
    next => cases h
  · rintro ⟨q, hq, htrim, hne⟩
    rw [htrim]
    simp [hq, hne]

namespace BaseCall

/-- Where the collection of a statement stands, a bracket opens. -/
inductive OpensCollection (statement : String) : Char → Char → List Char → Prop where
  /-- Behind `db`. -/
  | index {rest more : List Char} :
      readIdent? (trim statement.toList) = some ("db".toList, rest) →
      skipBlank rest = '[' :: more → OpensCollection statement '[' ']' ('[' :: more)
  /-- Behind `getCollection`. -/
  | call {rest dot after more : List Char} :
      readIdent? (trim statement.toList) = some ("db".toList, rest) →
      skipBlank rest = '.' :: dot →
      readIdent? (skipBlank dot) = some ("getCollection".toList, after) →
      skipBlank after = '(' :: more → OpensCollection statement '(' ')' ('(' :: more)

/-- In the brackets of a statement that is accepted stands one string literal, for the name of
the collection.  With anything else in them the statement is refused. -/
structure TakesOneLiteral (x : Escapes) (statement : String) (opener closer : Char)
    (text : List Char) : Prop where
  accepted : ∀ call rest, extract statement = .ok (call, rest) →
    ∃ content after, readGroup? opener closer text = some (content, after)
      ∧ x.IsNameLiteral (trim content) call.collection.toList
  refused : (¬ ∃ content after name, readGroup? opener closer text = some (content, after)
      ∧ x.IsNameLiteral (trim content) name) →
    extract statement = .error .invalidFormat

variable {statement : String} {opener closer : Char} {text : List Char}

/-- Behind a dot an identifier is read, and it may be the word in front of a quoted name. -/
theorem readCollection?_of_dot {rest dot ident after : List Char}
    (hdot : skipBlank rest = '.' :: dot)
    (hident : readIdent? (skipBlank dot) = some (ident, after)) :
    readCollection? rest
      = if ident = "getCollection".toList && (skipBlank after).head? = some '('
        then readQuotedName? '(' ')' (skipBlank after) else some (ident, after) := by
  rw [readCollection?, hdot]
  simp only [expectChar?, if_true, Option.bind_eq_bind, Option.bind_some, hident]
  rfl

theorem OpensCollection.readCollection? (h : OpensCollection statement opener closer text) :
    ∃ rest, readIdent? (trim statement.toList) = some ("db".toList, rest)
      ∧ readCollection? rest = readQuotedName? opener closer text := by
  cases h with
  | @index rest more hdb hopen =>
    refine ⟨rest, hdb, ?_⟩
    rw [BaseCall.readCollection?, hopen]
    rfl
  | @call rest dot after more hdb hdot hword hopen =>
    refine ⟨rest, hdb, ?_⟩
    rw [readCollection?_of_dot hdot hword, hopen]
    exact if_pos (by simp)

theorem readQuotedName?_eq_some_iff {name after : List Char} :
    readQuotedName? opener closer text = some (name, after)
      ↔ ∃ content, readGroup? opener closer text = some (content, after)
        ∧ unquote? content = some name := by
  rw [readQuotedName?]
  constructor
  · intro h
    obtain ⟨⟨content, rest⟩, hgroup, h⟩ := Option.bind_eq_some_iff.1 h
    obtain ⟨chars, hname, h⟩ := Option.bind_eq_some_iff.1 h
    cases h
    exact ⟨content, hgroup, hname⟩
  · rintro ⟨content, hgroup, hname⟩
    simp only [hgroup, hname, Option.bind_eq_bind, Option.bind_some]
    rfl

/-- The name of an accepted statement stands between two quotes in its brackets. -/
theorem OpensCollection.exists_quote (h : OpensCollection statement opener closer text)
    {call : BaseCall} {rest : List Char} (hcall : extract statement = .ok (call, rest)) :
    ∃ content after q, readGroup? opener closer text = some (content, after)
      ∧ (q = '"' ∨ q = '\'') ∧ trim content = q :: call.collection.toList ++ [q]
      ∧ call.collection.toList ≠ [] := by
  obtain ⟨behind, hdb, hcollection⟩ := h.readCollection?
  have hread : read? (trim statement.toList) = some (call, rest) := by
    rw [extract] at hcall
    split at hcall
    next result hresult =>
      cases hcall
      exact hresult
    next => cases hcall
  rw [read?, hdb] at hread
  simp only [Option.bind_eq_bind, Option.bind_some, if_true, hcollection] at hread
  obtain ⟨⟨name, after⟩, hname, hread⟩ := Option.bind_eq_some_iff.1 hread
  obtain ⟨content, hgroup, hunquote⟩ := readQuotedName?_eq_some_iff.1 hname
  obtain ⟨q, hq, htrim, hne⟩ := unquote?_eq_some_iff.1 hunquote
  have heq : call.collection.toList = name := by
    obtain ⟨_, -, hread⟩ := Option.bind_eq_some_iff.1 hread
    obtain ⟨_, -, hread⟩ := Option.bind_eq_some_iff.1 hread
    obtain ⟨_, -, hread⟩ := Option.bind_eq_some_iff.1 hread
    cases hread
    exact String.toList_ofList
  rw [heq]
  exact ⟨content, after, q, hgroup, hq, htrim, hne⟩

theorem extract_eq_error {e : ParseError} (h : extract statement = .error e) :
    e = .invalidFormat := by
  rw [extract] at h
  split at h
  next => cases h
  next =>
    cases h
    rfl

/-- A name that is one literal has no backslash and not its quote. -/
theorem TakesOneLiteral.clean {x : Escapes}
    (htakes : TakesOneLiteral x statement opener closer text)
    (h : OpensCollection statement opener closer text) {call : BaseCall}
    {rest content after : List Char} (hcall : extract statement = .ok (call, rest))
    (hgroup : readGroup? opener closer text = some (content, after)) :
    ∀ c ∈ call.collection.toList, c ≠ '\\' ∧ (trim content).head? ≠ some c := by
  obtain ⟨_, _, q, hgroup', hq, htrim, hne⟩ := h.exists_quote hcall
  obtain ⟨_, _, hgroup'', hliteral⟩ := htakes.accepted call rest hcall
  rw [hgroup] at hgroup' hgroup''
  cases hgroup'
  cases hgroup''
  rw [htrim] at hliteral ⊢
  obtain ⟨hquote, hbackslash⟩ := (Escapes.isNameLiteral_iff hq hne).1 hliteral
  intro c hc
  refine ⟨?_, ?_⟩
  · rintro rfl
    exact hbackslash hc
  · rintro ⟨⟩
    exact hquote hc

/-- What an accepted statement has in its brackets is the name of its collection between two
quotes.  It is one string literal for that name, and nothing but such literals is accepted,
exactly if the name has no backslash and not the quote that it stands in. -/
theorem takesOneLiteral_iff (x : Escapes) (h : OpensCollection statement opener closer text) :
    (∀ call rest, extract statement = .ok (call, rest) →
      ∃ content after q, readGroup? opener closer text = some (content, after)
        ∧ (q = '"' ∨ q = '\'') ∧ trim content = q :: call.collection.toList ++ [q]
        ∧ call.collection.toList ≠ [])
    ∧ (TakesOneLiteral x statement opener closer text ↔
      ∀ call rest content after, extract statement = .ok (call, rest) →
        readGroup? opener closer text = some (content, after) →
        ∀ c ∈ call.collection.toList, c ≠ '\\' ∧ (trim content).head? ≠ some c) := by
  refine ⟨fun call rest hcall => h.exists_quote hcall, ?_⟩
  constructor
  · exact fun htakes call rest content after => htakes.clean h
  · intro hclean
    have haccepted : ∀ call rest, extract statement = .ok (call, rest) →
        ∃ content after, readGroup? opener closer text = some (content, after)
          ∧ x.IsNameLiteral (trim content) call.collection.toList := by
      intro call rest hcall
      obtain ⟨content, after, q, hgroup, hq, htrim, hne⟩ := h.exists_quote hcall
      refine ⟨content, after, hgroup, ?_⟩
      have hchars := hclean call rest content after hcall hgroup
      rw [htrim] at hchars ⊢
      refine (Escapes.isNameLiteral_iff hq hne).2 ⟨fun hmem => ?_, fun hmem => ?_⟩
      · exact (hchars q hmem).2 rfl
      · exact (hchars '\\' hmem).1 rfl
    refine ⟨haccepted, fun hnone => ?_⟩
    cases hcall : extract statement with
    | error e => rw [extract_eq_error hcall]
    | ok result =>
      obtain ⟨content, after, hgroup, hliteral⟩ := haccepted result.1 result.2 hcall
      exact absurd ⟨content, after, _, hgroup, hliteral⟩ hnone

/-- A name with a hyphen, in brackets. -/
theorem takesOneLiteral_iff_hyphen :
    let statement := "db[ \"order-items\" ].find()"
    let text := "[ \"order-items\" ].find()".toList
    OpensCollection statement '[' ']' text
      ∧ extract statement = .ok (⟨"order-items", "find", ""⟩, [])
      ∧ TakesOneLiteral .json statement '[' ']' text := by
  intro statement text
  have hdb : readIdent? (trim statement.toList) = some ("db".toList, text) := by decide
  have hopens : OpensCollection statement '[' ']' text := .index hdb (by decide)
  have hcall : extract statement = .ok (⟨"order-items", "find", ""⟩, []) := by
    rw [extract, show read? (trim statement.toList)
      = some (⟨"order-items", "find", ""⟩, []) by decide +kernel]
  refine ⟨hopens, hcall, (takesOneLiteral_iff .json hopens).2.2 ?_⟩
  intro call rest content after hcall' hgroup
  rw [hcall] at hcall'
  cases hcall'
  rw [show readGroup? '[' ']' text = some (" \"order-items\" ".toList, ".find()".toList) by
    decide +kernel] at hgroup
  cases hgroup
  exact List.all_iff_forall_prop.1 (by decide +kernel)

/-- Two literals with a plus between them are accepted.  So is one literal with an escaped
quote, for a name with the backslash. -/
theorem not_takesOneLiteral_sum :
    extract "db[\"a\" + \"b\"].find()" = .ok (⟨"a\" + \"b", "find", ""⟩, [])
    ∧ ¬ TakesOneLiteral .json "db[\"a\" + \"b\"].find()" '[' ']' "[\"a\" + \"b\"].find()".toList
    ∧ extract "db['it\\'s'].find()" = .ok (⟨"it\\'s", "find", ""⟩, [])
    ∧ ¬ TakesOneLiteral .json "db['it\\'s'].find()" '[' ']' "['it\\'s'].find()".toList := by
  have hextract (s : String) (call : BaseCall)
      (h : read? (trim s.toList) = some (call, [])) : extract s = .ok (call, []) := by
    rw [extract, h]
  have hsum := hextract "db[\"a\" + \"b\"].find()" ⟨"a\" + \"b", "find", ""⟩
    (by decide +kernel)
  have hescape := hextract "db['it\\'s'].find()" ⟨"it\\'s", "find", ""⟩ (by decide +kernel)
  refine ⟨hsum, fun htakes => ?_, hescape, fun htakes => ?_⟩
  · have hgroup : readGroup? '[' ']' "[\"a\" + \"b\"].find()".toList
        = some ("\"a\" + \"b\"".toList, ".find()".toList) := by decide +kernel
    have hdb : readIdent? (trim "db[\"a\" + \"b\"].find()".toList)
        = some ("db".toList, "[\"a\" + \"b\"].find()".toList) := by decide
    have hopens : OpensCollection "db[\"a\" + \"b\"].find()" '[' ']'
        "[\"a\" + \"b\"].find()".toList := .index hdb (by decide)
    exact (htakes.clean hopens hsum hgroup '"' (by decide)).2 (by decide)
  · have hgroup : readGroup? '[' ']' "['it\\'s'].find()".toList
        = some ("'it\\'s'".toList, ".find()".toList) := by decide +kernel
    have hdb : readIdent? (trim "db['it\\'s'].find()".toList)
        = some ("db".toList, "['it\\'s'].find()".toList) := by decide
    have hopens : OpensCollection "db['it\\'s'].find()" '[' ']' "['it\\'s'].find()".toList :=
      .index hdb (by decide)
    exact (htakes.clean hopens hescape hgroup '\\' (by decide)).1 rfl

end BaseCall

end ShellQuery
