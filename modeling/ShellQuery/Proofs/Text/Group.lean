import Mathlib.Data.Bool.AllAny
import ShellQuery.Text.Group

/-!
# Groups and the scan that finds them

The grammar `IsGroup` says what a balanced group is, and `readGroup?` finds one by
counting brackets.  Here the scan is shown to find every group of the grammar,
whatever text follows it, and nothing else (`readGroup?_eq_some_iff`).

The scan passes over a closed string literal and over a sequence of items without a
change of its count, as long as a bracket is open.  `splitGroupFrom?_isItems` is the
statement that carries the induction.  In the other direction it is `Closes`, which says
what the text up to a cut has to look like for the brackets that are open in front of it.
-/

namespace ShellQuery.Text

variable {opener closer : Char}

/-- Puts a text in front of the first part of a cut. -/
def prependToCut (text : List Char) (cut : Option (List Char × List Char)) :
    Option (List Char × List Char) :=
  cut.map fun (front, after) => (text ++ front, after)

@[simp] theorem prependToCut_nil (cut : Option (List Char × List Char)) :
    prependToCut [] cut = cut := by
  cases cut <;> rfl

@[simp] theorem consToCut_prependToCut (c : Char) (text : List Char)
    (cut : Option (List Char × List Char)) :
    consToCut c (prependToCut text cut) = prependToCut (c :: text) cut := by
  cases cut <;> rfl

theorem prependToCut_prependToCut (a b : List Char) (cut : Option (List Char × List Char)) :
    prependToCut a (prependToCut b cut) = prependToCut (a ++ b) cut := by
  cases cut with
  | none => rfl
  | some p => simp [prependToCut]

theorem ne_backslash_of_isQuote {q : Char} (h : isQuote q = true) : q ≠ '\\' := by
  rintro rfl
  revert h
  decide

/-! ## Literals -/

/-- Characters in front of the rest of a literal that neither close it nor escape. -/
theorem isLiteralBody_append {q : Char} {front body : List Char}
    (h : ∀ c ∈ front, c ≠ q ∧ c ≠ '\\') (hb : IsLiteralBody q body) :
    IsLiteralBody q (front ++ body) := by
  induction front with
  | nil => exact hb
  | cons c front ih =>
    rw [List.forall_mem_cons] at h
    exact .char h.1.1 h.1.2 (ih h.2)

/-- A literal is cut off where it is closed. -/
theorem splitLiteral_of_isLiteralBody {q : Char} {body : List Char} (hq : q ≠ '\\')
    (h : IsLiteralBody q body) (rest : List Char) :
    splitLiteral q (body ++ rest) = (body, rest) := by
  induction h with
  | close => simp [splitLiteral, hq]
  | escape _ ih => simp [splitLiteral, ih]
  | char h1 h2 _ ih => simp [splitLiteral, h1, h2, ih]

/-! ## Induction over items -/

/-- A group is a sequence of items in brackets. -/
theorem isGroup_iff {group : List Char} :
    IsGroup opener closer group ↔
      ∃ items, group = opener :: items ++ [closer] ∧ IsItems opener closer items := by
  constructor
  · rintro ⟨h⟩
    exact ⟨_, rfl, h⟩
  · rintro ⟨items, rfl, h⟩
    exact .around h

theorem isItems_of_isGroup {items : List Char}
    (h : IsGroup opener closer (opener :: items ++ [closer])) : IsItems opener closer items := by
  obtain ⟨items', he, h⟩ := isGroup_iff.1 h
  rw [List.cons_append, List.cons_append] at he
  rwa [List.append_cancel_right (List.cons.inj he).2]

/-- Induction over a sequence of items, where a group is its brackets around items. -/
theorem IsItems.induct {motive : (items : List Char) → IsItems opener closer items → Prop}
    (nil : motive [] .nil)
    (group : ∀ {inner items : List Char} (hi : IsItems opener closer inner)
      (h : IsItems opener closer items), motive inner hi → motive items h →
      motive (opener :: inner ++ [closer] ++ items) (.group (.around hi) h))
    (literal : ∀ {q : Char} {body items : List Char} (hq : isQuote q = true)
      (hb : IsLiteralBody q body) (h : IsItems opener closer items), motive items h →
      motive (q :: body ++ items) (.literal hq hb h))
    (char : ∀ {c : Char} {items : List Char} (ho : c ≠ opener) (hc : c ≠ closer)
      (hq : isQuote c = false) (h : IsItems opener closer items), motive items h →
      motive (c :: items) (.char ho hc hq h))
    {items : List Char} (h : IsItems opener closer items) : motive items h := by
  -- the first motive is about groups, which have only one constructor
  refine @IsItems.rec opener closer
    (fun g _ => ∃ inner, ∃ hi : IsItems opener closer inner,
      g = opener :: inner ++ [closer] ∧ motive inner hi)
    motive ?_ nil ?_ literal char items h
  · intro inner hi ih
    exact ⟨inner, hi, rfl, ih⟩
  · rintro g items - hi ⟨inner, hinner, rfl, ihinner⟩ ih
    exact group hinner hi ihinner ih

/-! ## What the scan passes over -/

theorem splitGroupFrom?_inside (q c : Char) (escaped : Bool) (depth : Nat) (rest : List Char) :
    splitGroupFrom? opener closer (.inside q escaped) depth (c :: rest)
      = consToCut c
        (splitGroupFrom? opener closer ((QuoteState.inside q escaped).step c) depth rest) := rfl

/-- The rest of a closed literal is passed over. -/
theorem splitGroupFrom?_literal {q : Char} {body : List Char} (hq : isQuote q = true)
    (h : IsLiteralBody q body) (depth : Nat) (rest : List Char) :
    splitGroupFrom? opener closer (.inside q false) depth (body ++ rest)
      = prependToCut body (splitGroupFrom? opener closer .outside depth rest) := by
  induction h with
  | close =>
    have hs : (QuoteState.inside q false).step q = .outside := by
      rw [QuoteState.step, if_neg (ne_backslash_of_isQuote hq), if_pos rfl]
    rw [List.singleton_append, splitGroupFrom?_inside, hs]
    rfl
  | escape _ ih =>
    rw [List.cons_append, List.cons_append, splitGroupFrom?_inside, QuoteState.step, if_pos rfl,
      splitGroupFrom?_inside, QuoteState.step, ih, consToCut_prependToCut, consToCut_prependToCut]
  | char hne hb _ ih =>
    rw [List.cons_append, splitGroupFrom?_inside, QuoteState.step, if_neg hb, if_neg hne, ih,
      consToCut_prependToCut]

theorem splitGroupFrom?_quote {q : Char} (hq : isQuote q = true) (depth : Nat)
    (rest : List Char) :
    splitGroupFrom? opener closer .outside depth (q :: rest)
      = consToCut q (splitGroupFrom? opener closer (.inside q false) depth rest) := by
  simp [splitGroupFrom?, QuoteState.covers, QuoteState.step, hq]

theorem splitGroupFrom?_opener (ho : isQuote opener = false) (depth : Nat) (rest : List Char) :
    splitGroupFrom? opener closer .outside depth (opener :: rest)
      = consToCut opener (splitGroupFrom? opener closer .outside (depth + 1) rest) := by
  simp [splitGroupFrom?, QuoteState.covers, ho]

/-- A closing bracket that leaves a bracket open is passed over. -/
theorem splitGroupFrom?_closer (hc : isQuote closer = false) (hne : opener ≠ closer)
    (depth : Nat) (rest : List Char) :
    splitGroupFrom? opener closer .outside (depth + 2) (closer :: rest)
      = consToCut closer (splitGroupFrom? opener closer .outside (depth + 1) rest) := by
  simp [splitGroupFrom?, QuoteState.covers, hc, hne.symm]

/-- The text is cut after the bracket that closes the last open one. -/
theorem splitGroupFrom?_last (hc : isQuote closer = false) (hne : opener ≠ closer)
    (rest : List Char) :
    splitGroupFrom? opener closer .outside 1 (closer :: rest) = some ([closer], rest) := by
  simp [splitGroupFrom?, QuoteState.covers, hc, hne.symm]

theorem splitGroupFrom?_char {c : Char} (ho : c ≠ opener) (hc : c ≠ closer)
    (hq : isQuote c = false) (depth : Nat) (rest : List Char) :
    splitGroupFrom? opener closer .outside depth (c :: rest)
      = consToCut c (splitGroupFrom? opener closer .outside depth rest) := by
  simp [splitGroupFrom?, QuoteState.covers, ho, hc, hq]

/-- Items are passed over while a bracket is open. -/
theorem splitGroupFrom?_isItems (ho : isQuote opener = false) (hc : isQuote closer = false)
    (hne : opener ≠ closer) {items : List Char} (h : IsItems opener closer items) (depth : Nat)
    (rest : List Char) :
    splitGroupFrom? opener closer .outside (depth + 1) (items ++ rest)
      = prependToCut items (splitGroupFrom? opener closer .outside (depth + 1) rest) := by
  induction h using IsItems.induct generalizing depth rest with
  | nil => rw [List.nil_append, prependToCut_nil]
  | @group inner items _ _ ihInner ih =>
    have hs : opener :: inner ++ [closer] ++ items ++ rest
        = opener :: (inner ++ closer :: (items ++ rest)) := by simp
    rw [hs, splitGroupFrom?_opener ho, ihInner, splitGroupFrom?_closer hc hne, ih,
      consToCut_prependToCut, consToCut_prependToCut, prependToCut_prependToCut]
    simp
  | @literal q body items hq hb _ ih =>
    rw [List.cons_append, List.cons_append, splitGroupFrom?_quote hq, List.append_assoc,
      splitGroupFrom?_literal hq hb, ih, prependToCut_prependToCut, consToCut_prependToCut]
  | char h1 h2 h3 _ ih =>
    rw [List.cons_append, splitGroupFrom?_char h1 h2 h3, ih, consToCut_prependToCut]

/-- The items in the brackets at the start of a text are read, and the text after
them is left. -/
theorem readGroup?_isItems (ho : isQuote opener = false) (hc : isQuote closer = false)
    (hne : opener ≠ closer) {items : List Char} (h : IsItems opener closer items)
    (rest : List Char) :
    readGroup? opener closer (opener :: items ++ closer :: rest) = some (items, rest) := by
  have hs : splitGroup? opener closer (opener :: items ++ closer :: rest)
      = some (opener :: items ++ [closer], rest) := by
    rw [splitGroup?, List.cons_append, splitGroupFrom?_opener ho,
      splitGroupFrom?_isItems ho hc hne h, splitGroupFrom?_last hc hne]
    rfl
  rw [List.cons_append] at hs ⊢
  rw [readGroup?, if_pos rfl, hs]
  simp [groupBody]

/-! ## What the scan cuts off -/

/-- What closes some open brackets and one more: items and a closing bracket for each. -/
inductive Closes (opener closer : Char) : Nat → List Char → Prop where
  /-- One bracket. -/
  | last {items : List Char} : IsItems opener closer items →
      Closes opener closer 0 (items ++ [closer])
  /-- One bracket and the rest of them. -/
  | more {depth : Nat} {items rest : List Char} : IsItems opener closer items →
      Closes opener closer depth rest → Closes opener closer (depth + 1) (items ++ closer :: rest)

/-- What follows a place inside a literal, up to and with the quote that closes it. -/
def IsLiteralRest (q : Char) : Bool → List Char → Prop
  | false, body => IsLiteralBody q body
  | true, body => ∃ c rest, body = c :: rest ∧ IsLiteralBody q rest

theorem Closes.group {inner text : List Char} {depth : Nat}
    (hi : IsItems opener closer inner) (h : Closes opener closer depth text) :
    Closes opener closer depth (opener :: inner ++ closer :: text) := by
  have hs {items : List Char} : opener :: inner ++ closer :: items
      = opener :: inner ++ [closer] ++ items := by simp
  cases h with
  | last h =>
    rw [hs, ← List.append_assoc]
    exact .last (.group (.around hi) h)
  | more h ht =>
    rw [hs, ← List.append_assoc]
    exact .more (.group (.around hi) h) ht

theorem Closes.literal {q : Char} {body text : List Char} {depth : Nat} (hq : isQuote q = true)
    (hb : IsLiteralBody q body) (h : Closes opener closer depth text) :
    Closes opener closer depth (q :: body ++ text) := by
  cases h with
  | last h =>
    rw [← List.append_assoc]
    exact .last (.literal hq hb h)
  | more h ht =>
    rw [← List.append_assoc]
    exact .more (.literal hq hb h) ht

theorem Closes.char {c : Char} {text : List Char} {depth : Nat} (ho : c ≠ opener)
    (hc : c ≠ closer) (hq : isQuote c = false) (h : Closes opener closer depth text) :
    Closes opener closer depth (c :: text) := by
  cases h with
  | last h => exact .last (.char ho hc hq h)
  | more h ht => exact .more (.char ho hc hq h) ht

/-- What the scan cuts off closes the brackets that are open.  Inside a literal it closes the
literal first. -/
theorem closes_of_splitGroupFrom? {text group after : List Char} {depth : Nat} :
    (splitGroupFrom? opener closer .outside (depth + 1) text = some (group, after) →
        Closes opener closer depth group)
      ∧ ∀ q escaped, splitGroupFrom? opener closer (.inside q escaped) (depth + 1) text
          = some (group, after) →
        ∃ body rest, group = body ++ rest ∧ IsLiteralRest q escaped body
          ∧ Closes opener closer depth rest := by
  -- The two parts are proved together: a literal is entered from outside and left again.
  induction text generalizing depth group with
  | nil => exact ⟨nofun, nofun⟩
  | cons c text ih =>
    constructor
    · intro h
      rw [splitGroupFrom?] at h
      split at h
      next hq =>
        have hq : isQuote c = true := hq
        obtain ⟨tail, rfl, ht⟩ := consToCut_eq_some.1 h
        rw [QuoteState.step, if_pos hq] at ht
        obtain ⟨body, rest, rfl, hbody, hrest⟩ := ih.2 c false ht
        exact .literal hq hbody hrest
      next hq =>
        have hq : isQuote c = false := by simpa [QuoteState.covers] using hq
        split at h
        next ho =>
          obtain ⟨tail, rfl, ht⟩ := consToCut_eq_some.1 h
          cases ih.1 ht with
          | more hi hrest =>
            rw [ho]
            exact .group hi hrest
        next ho =>
          split at h
          next hc =>
            rw [Nat.add_sub_cancel] at h
            cases depth with
            | zero =>
              cases h
              rw [hc]
              exact .last .nil
            | succ depth =>
              rw [if_neg (Nat.succ_ne_zero depth)] at h
              obtain ⟨tail, rfl, ht⟩ := consToCut_eq_some.1 h
              rw [hc]
              exact .more .nil (ih.1 ht)
          next hc =>
            obtain ⟨tail, rfl, ht⟩ := consToCut_eq_some.1 h
            exact .char ho hc hq (ih.1 ht)
    · intro q escaped h
      rw [splitGroupFrom?_inside] at h
      obtain ⟨tail, rfl, ht⟩ := consToCut_eq_some.1 h
      cases escaped with
      | true =>
        obtain ⟨body, rest, rfl, hbody, hrest⟩ := ih.2 q false ht
        exact ⟨c :: body, rest, rfl, ⟨c, body, rfl, hbody⟩, hrest⟩
      | false =>
        rw [QuoteState.step] at ht
        split at ht
        next hb =>
          obtain ⟨body, rest, rfl, ⟨d, more, rfl, hbody⟩, hrest⟩ := ih.2 q true ht
          refine ⟨c :: d :: more, rest, rfl, ?_, hrest⟩
          rw [hb]
          exact .escape hbody
        next hb =>
          split at ht
          next hc =>
            refine ⟨[c], tail, rfl, ?_, ih.1 ht⟩
            rw [hc]
            exact .close q
          next hc =>
            obtain ⟨body, rest, rfl, hbody, hrest⟩ := ih.2 q false ht
            exact ⟨c :: body, rest, rfl, .char hc hb hbody, hrest⟩

/-- The scan finds the groups of the grammar and nothing else. -/
theorem readGroup?_eq_some_iff (ho : isQuote opener = false) (hc : isQuote closer = false)
    (hne : opener ≠ closer) {text items rest : List Char} :
    readGroup? opener closer text = some (items, rest)
      ↔ text = opener :: items ++ closer :: rest ∧ IsItems opener closer items := by
  constructor
  · intro h
    cases text with
    | nil => cases h
    | cons c text =>
      simp only [readGroup?, Option.ite_none_right_eq_some] at h
      obtain ⟨rfl, h⟩ := h
      obtain ⟨⟨group, after⟩, hg, he⟩ := Option.map_eq_some_iff.1 h
      rw [Prod.mk.injEq] at he
      obtain ⟨hitems, rfl⟩ := he
      have happ := (splitGroupFrom?_append hg).2
      rw [splitGroup?, splitGroupFrom?_opener ho] at hg
      obtain ⟨tail, rfl, ht⟩ := consToCut_eq_some.1 hg
      cases closes_of_splitGroupFrom?.1 ht with
      | @last inner hi =>
        have hinner : inner = items := by simpa [groupBody] using hitems
        rw [← happ, ← hinner]
        exact ⟨by simp, hi⟩
  · rintro ⟨rfl, hi⟩
    exact readGroup?_isItems ho hc hne hi rest

end ShellQuery.Text
