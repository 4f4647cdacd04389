import ShellQuery.Text.Quote

/-!
# Balanced groups

A *group* is a stretch of text from an opening bracket to the bracket that
closes it.  Brackets inside string literals do not count.  The scan counts the
brackets that are open and stops where the count falls back to zero, so the
group does not depend on what follows it.

`IsGroup` says the same as a grammar, with no counter and no state.
-/

namespace ShellQuery.Text

/-! ## Reading a group -/

/-- The count of open brackets after one more character, which is not part of a
string literal.  A bracket that closes nothing leaves the count at zero. -/
def stepDepth (opener closer : Char) (depth : Nat) (c : Char) : Nat :=
  if c = opener then depth + 1 else if c = closer then depth - 1 else depth

/-- Puts one more character in front of the first part of a cut. -/
def consToCut (c : Char) (cut : Option (List Char × List Char)) :
    Option (List Char × List Char) :=
  cut.map fun (front, after) => (c :: front, after)

/-- Cuts a text after the first closing bracket that leaves no bracket open.
`depth` counts the brackets that are open already. -/
def splitGroupFrom? (opener closer : Char) (state : QuoteState) (depth : Nat) :
    List Char → Option (List Char × List Char)
  | [] => none
  | c :: rest =>
      if state.covers c then
        consToCut c (splitGroupFrom? opener closer (state.step c) depth rest)
      else if c = opener then
        consToCut c (splitGroupFrom? opener closer state (depth + 1) rest)
      else if c = closer then
        if depth - 1 = 0 then some ([c], rest)
        else consToCut c (splitGroupFrom? opener closer state (depth - 1) rest)
      else
        consToCut c (splitGroupFrom? opener closer state depth rest)
termination_by structural text => text

/-- Cuts a text that starts with an opening bracket after the bracket that
closes it. -/
def splitGroup? (opener closer : Char) (text : List Char) : Option (List Char × List Char) :=
  splitGroupFrom? opener closer .outside 0 text

/-- The text between the two brackets of a group. -/
def groupBody (group : List Char) : List Char := group.tail.dropLast

/-- The text between the brackets of the group at the start of a text, and the
text after the group.  There is none if the text does not start with the
opening bracket or the bracket is never closed. -/
def readGroup? (opener closer : Char) (text : List Char) : Option (List Char × List Char) :=
  match text with
  | [] => none
  | c :: _ =>
      if c = opener then
        (splitGroup? opener closer text).map fun (group, after) => (groupBody group, after)
      else none

theorem consToCut_eq_some {c : Char} {cut : Option (List Char × List Char)}
    {front after : List Char} :
    consToCut c cut = some (front, after) ↔
      ∃ tail, front = c :: tail ∧ cut = some (tail, after) := by
  cases cut with
  | none => simp [consToCut]
  | some p =>
    obtain ⟨a, b⟩ := p
    simp only [consToCut, Option.map_some, Option.some.injEq, Prod.mk.injEq]
    constructor
    · rintro ⟨rfl, rfl⟩
      exact ⟨a, rfl, rfl, rfl⟩
    · rintro ⟨_, rfl, rfl, rfl⟩
      exact ⟨rfl, rfl⟩

/-- The two parts of a cut make up the text, and the first is not empty. -/
theorem splitGroupFrom?_append {opener closer : Char} {state : QuoteState} {depth : Nat}
    {text group after : List Char}
    (h : splitGroupFrom? opener closer state depth text = some (group, after)) :
    group ≠ [] ∧ group ++ after = text := by
  induction text generalizing state depth group with
  | nil => simp [splitGroupFrom?] at h
  | cons c rest ih =>
    have step {state' : QuoteState} {depth' : Nat}
        (hc : consToCut c (splitGroupFrom? opener closer state' depth' rest)
          = some (group, after)) : group ≠ [] ∧ group ++ after = c :: rest := by
      obtain ⟨tail, rfl, ht⟩ := consToCut_eq_some.1 hc
      simp [(ih ht).2]
    rw [splitGroupFrom?] at h
    split at h
    · exact step h
    · split at h
      · exact step h
      · split at h
        · split at h
          · simp only [Option.some.injEq, Prod.mk.injEq] at h
            obtain ⟨rfl, rfl⟩ := h
            simp
          · exact step h
        · exact step h

theorem readGroup?_length_lt {opener closer : Char} {text body after : List Char}
    (h : readGroup? opener closer text = some (body, after)) : after.length < text.length := by
  cases text with
  | nil => simp [readGroup?] at h
  | cons c rest =>
    simp only [readGroup?, Option.ite_none_right_eq_some] at h
    obtain ⟨⟨g, a⟩, hg, he⟩ := Option.map_eq_some_iff.1 h.2
    simp only [Prod.mk.injEq] at he
    obtain ⟨hne, happ⟩ := splitGroupFrom?_append hg
    have ha := congrArg List.length happ
    have hn := List.length_pos_iff.2 hne
    simp only [List.length_append, List.length_cons] at ha ⊢
    rw [← he.2]
    omega

/-! ## The grammar of groups -/

/-- What follows the opening quote of a literal, up to and with the closing one. -/
inductive IsLiteralBody : Char → List Char → Prop where
  /-- The closing quote. -/
  | close (q : Char) : IsLiteralBody q [q]
  /-- A backslash and the character it takes along. -/
  | escape {q c : Char} {body : List Char} : IsLiteralBody q body →
      IsLiteralBody q ('\\' :: c :: body)
  /-- A character that neither closes the literal nor escapes the next one. -/
  | char {q c : Char} {body : List Char} : c ≠ q → c ≠ '\\' → IsLiteralBody q body →
      IsLiteralBody q (c :: body)

mutual

/-- A group: an opening bracket, items, and a closing bracket. -/
inductive IsGroup (opener closer : Char) : List Char → Prop where
  /-- The brackets around a sequence of items. -/
  | around {items : List Char} : IsItems opener closer items →
      IsGroup opener closer (opener :: items ++ [closer])

/-- A sequence of items: groups, string literals and other characters. -/
inductive IsItems (opener closer : Char) : List Char → Prop where
  /-- No item. -/
  | nil : IsItems opener closer []
  /-- A group and more items. -/
  | group {g items : List Char} : IsGroup opener closer g → IsItems opener closer items →
      IsItems opener closer (g ++ items)
  /-- A closed string literal and more items. -/
  | literal {q : Char} {body items : List Char} : isQuote q = true →
      IsLiteralBody q body → IsItems opener closer items →
      IsItems opener closer (q :: body ++ items)
  /-- Any other character and more items. -/
  | char {c : Char} {items : List Char} : c ≠ opener → c ≠ closer → isQuote c = false →
      IsItems opener closer items → IsItems opener closer (c :: items)

end

example : readGroup? '(' ')' "(a(\")\")c)d".toList = some ("a(\")\")c".toList, "d".toList) := by
  decide

example : readGroup? '(' ')' "(a(b)".toList = none := by decide

end ShellQuery.Text
