import Mathlib.Data.Option.Basic
import ShellQuery.Proofs.Statement.Suffix
import ShellQuery.Proofs.Text.Slice

/-!
# Readers by byte offsets

The readers of identifiers, groups and literals, written a second time: each gets the whole
text and the byte where it starts, looks at the text by slicing, and gives the byte behind
what it has read.  A slice that does not exist ends the reader without a result.

In `Slicing` the outer option says whether all slices existed, and the inner one whether the
text had the form that was looked for.  `Follows` says of a reader by offsets that its slices
exist and that it reads what a reader of the text left reads.  It goes through the steps of
a reader (`Follows.bind`), so the two are compared step by step.
-/

namespace ShellQuery.Offset

open ShellQuery.Text (Place QuoteState sliceFrom? sliceTo? slice? findChar? charOffsets
  charOffsetsFrom utf8Length isBlank isIdentStart isIdentChar)

/-- Reading by slices: whether all of them exist, and whether the form is there. -/
abbrev Slicing := OptionT Option

/-- A slice as a step of a reader. -/
def cut {α : Type} (slice : Option α) : Slicing α := OptionT.lift slice

/-- A reader by offsets finds all its slices and reads what the other reader does. -/
def Follows {α β : Type} (R : α → β → Prop) (read : Option α) (byOffset : Slicing β) : Prop :=
  ∃ found, byOffset.run = some found ∧ Option.Rel R read found

/-- The same value, and the byte where the text left starts. -/
def SamePlace {α : Type} (text : List Char) (a : α × List Char) (b : α × Nat) : Prop :=
  a.1 = b.1 ∧ Place text b.2 a.2

section Follows

variable {α β γ δ : Type} {R : α → β → Prop} {S : γ → δ → Prop}

theorem follows_failure : Follows R none failure := ⟨none, rfl, .none⟩

theorem follows_pure {a : α} {b : β} (h : R a b) : Follows R (some a) (pure b) :=
  ⟨some b, rfl, .some h⟩

/-- A step of one reader and the step of the other, and what each does next. -/
theorem Follows.bind {read : Option α} {byOffset : Slicing β} {f : α → Option γ}
    {g : β → Slicing δ} (h : Follows R read byOffset)
    (hnext : ∀ a b, R a b → Follows S (f a) (g b)) :
    Follows S (read >>= f) (byOffset >>= g) := by
  obtain ⟨found, hrun, hrel⟩ := h
  have hbind : (byOffset >>= g).run = found.elim (some none) fun b => (g b).run := by
    rw [OptionT.run_bind, hrun]
    rfl
  cases hrel with
  | none => exact ⟨none, hbind, .none⟩
  | @some a b hab =>
    obtain ⟨found', hrun', hrel'⟩ := hnext a b hab
    exact ⟨found', hbind.trans hrun', hrel'⟩

/-- A reader by offsets that goes on where the other one is done. -/
theorem Follows.further {read : Option α} {byOffset : Slicing β} {g : β → Slicing δ}
    {S : α → δ → Prop} (h : Follows R read byOffset)
    (hnext : ∀ a b, R a b → Follows S (some a) (g b)) : Follows S read (byOffset >>= g) := by
  have hbind := h.bind (f := some) hnext
  rwa [Option.bind_eq_bind, Option.bind_fun_some] at hbind

theorem Follows.cut {a : β} {slice : Option β} {read : Option γ} {g : β → Slicing δ}
    (hslice : slice = some a) (h : Follows S read (g a)) :
    Follows S read (cut slice >>= g) := by
  rw [hslice]
  exact h

/-- A reader that follows another one exactly gives its result. -/
theorem Follows.run_eq {read : Option α} {byOffset : Slicing α} (h : Follows Eq read byOffset) :
    byOffset.run = some read := by
  obtain ⟨found, hrun, hrel⟩ := h
  cases hrel with
  | none => exact hrun
  | some hab => rw [hrun, hab]

end Follows

/-! ## Blanks and single characters -/

/-- The byte of the first character that is not blank. -/
def skipBlank? (text : List Char) (start : Nat) : Option Nat := do
  let rest ← sliceFrom? text start
  pure (((findChar? (fun c => !isBlank c) rest).map (start + ·)).getD (utf8Length text))

/-- The byte behind a character, with blanks in front of it. -/
def expectChar? (c : Char) (text : List Char) (start : Nat) : Slicing Nat := do
  let i ← cut (skipBlank? text start)
  let rest ← cut (sliceFrom? text i)
  if rest.head? = some c then pure (i + c.utf8Size) else failure

variable {text rest : List Char} {start : Nat}

theorem exists_skipBlank? (h : Place text start rest) :
    ∃ i, skipBlank? text start = some i ∧ Place text i (Text.skipBlank rest) := by
  have hplace : Place text start (rest.takeWhile isBlank ++ Text.skipBlank rest) := by
    rwa [Text.skipBlank, List.takeWhile_append_dropWhile]
  refine ⟨start + utf8Length (rest.takeWhile isBlank), ?_, hplace.append⟩
  have hget := Text.findChar?_getD isBlank rest
  rw [skipBlank?, h.sliceFrom?, ← h.length_eq, ← hget]
  simp only [Option.bind_eq_bind, Option.bind_some]
  cases findChar? (fun c => !isBlank c) rest with
  | none => rfl
  | some n => rfl

theorem follows_expectChar? (h : Place text start rest) (c : Char) :
    Follows (fun rest i => Place text i rest) (Text.expectChar? c (Text.skipBlank rest))
      (expectChar? c text start) := by
  obtain ⟨i, hskip, hi⟩ := exists_skipBlank? h
  refine .cut hskip (.cut hi.sliceFrom? ?_)
  cases hrest : Text.skipBlank rest with
  | nil => exact follows_failure
  | cons d more =>
    rw [hrest] at hi
    by_cases hd : d = c
    · rw [Text.expectChar?, if_pos hd, List.head?_cons, if_pos (congrArg some hd), ← hd]
      exact follows_pure hi.cons
    · rw [Text.expectChar?, if_neg hd, List.head?_cons, if_neg (by simpa using hd)]
      exact follows_failure

/-! ## Identifiers -/

/-- The identifier at a byte, and the byte behind it. -/
def readIdent? (text : List Char) (start : Nat) : Slicing (List Char × Nat) := do
  let rest ← cut (sliceFrom? text start)
  match charOffsets rest with
  | [] => failure
  | (_, c) :: more =>
      if isIdentStart c then
        let stop := ((more.find? fun x => !isIdentChar x.2).map Prod.fst).getD (utf8Length rest)
        let ident ← cut (sliceTo? rest stop)
        pure (ident, start + stop)
      else failure

theorem follows_readIdent? (h : Place text start rest) :
    Follows (SamePlace text) (Text.readIdent? rest) (readIdent? text start) := by
  refine .cut h.sliceFrom? ?_
  cases rest with
  | nil => exact follows_failure
  | cons c more =>
    by_cases hc : isIdentStart c = true
    · -- the identifier ends at the first character that does not go on with it
      have hparts : c :: more = c :: more.takeWhile isIdentChar ++ more.dropWhile isIdentChar := by
        rw [List.cons_append, List.takeWhile_append_dropWhile]
      have hget : (((charOffsetsFrom c.utf8Size more).find? fun x => !isIdentChar x.2).map
          Prod.fst).getD (utf8Length (c :: more))
          = utf8Length (c :: more.takeWhile isIdentChar) := by
        rw [Text.find?_charOffsetsFrom fun d => !isIdentChar d]
        simp only [Bool.not_not]
        cases hd : more.dropWhile isIdentChar with
        | nil =>
          rw [hd, List.append_nil] at hparts
          rw [← hparts]
          rfl
        | cons d after => rfl
      have hcut : sliceTo? (c :: more) (utf8Length (c :: more.takeWhile isIdentChar))
          = some (c :: more.takeWhile isIdentChar) :=
        Text.sliceTo?_eq_some_iff.2 ⟨_, hparts, rfl⟩
      rw [Text.readIdent?, if_pos hc]
      dsimp only [charOffsets, charOffsetsFrom]
      rw [if_pos hc, Nat.zero_add, hget]
      refine .cut hcut (follows_pure ⟨rfl, ?_⟩)
      rw [hparts] at h
      exact h.append
    · rw [Text.readIdent?, if_neg hc]
      dsimp only [charOffsets, charOffsetsFrom]
      rw [if_neg hc]
      exact follows_failure

/-! ## Groups -/

/-- The byte of the first closing bracket that leaves no bracket open.  `depth` counts the
brackets that are open already. -/
def closingFrom? (opener closer : Char) (state : QuoteState) (depth : Nat) :
    List (Nat × Char) → Option Nat
  | [] => none
  | (i, c) :: rest =>
      if state.covers c then closingFrom? opener closer (state.step c) depth rest
      else if c = opener then closingFrom? opener closer state (depth + 1) rest
      else if c = closer then
        if depth - 1 = 0 then some i else closingFrom? opener closer state (depth - 1) rest
      else closingFrom? opener closer state depth rest

/-- The byte of the bracket that closes the group at a byte. -/
def closing? (opener closer : Char) (text : List Char) (start : Nat) : Slicing Nat := do
  let rest ← cut (sliceFrom? text start)
  OptionT.mk (some ((closingFrom? opener closer .outside 0 (charOffsets rest)).map (start + ·)))

/-- The closing bracket is the last character of the group. -/
theorem closingFrom?_eq (opener closer : Char) (state : QuoteState) (depth i : Nat)
    (text : List Char) :
    closingFrom? opener closer state depth (charOffsetsFrom i text)
      = (Text.splitGroupFrom? opener closer state depth text).map
          fun (group, _) => i + utf8Length group.dropLast := by
  have hcons (c : Char) (i : Nat) (state : QuoteState) (depth : Nat) (rest : List Char) :
      (Text.consToCut c (Text.splitGroupFrom? opener closer state depth rest)).map
          (fun (group, _) => i + utf8Length group.dropLast)
        = (Text.splitGroupFrom? opener closer state depth rest).map
          fun (group, _) => i + c.utf8Size + utf8Length group.dropLast := by
    cases hs : Text.splitGroupFrom? opener closer state depth rest with
    | none => rfl
    | some found =>
      obtain ⟨group, after⟩ := found
      have hne := (Text.splitGroupFrom?_append hs).1
      simp [Text.consToCut, List.dropLast_cons_of_ne_nil hne, Nat.add_assoc]
  induction text generalizing state depth i with
  | nil => rfl
  | cons c rest ih =>
    rw [charOffsetsFrom, closingFrom?, Text.splitGroupFrom?]
    split
    · rw [hcons, ih]
    · split
      · rw [hcons, ih]
      · split
        · split
          · rfl
          · rw [hcons, ih]
        · rw [hcons, ih]

/-- The closing bracket is found by offsets where the group ends. -/
theorem closing?_eq (opener closer : Char) (h : Place text start rest) :
    (closing? opener closer text start).run
      = some ((Text.splitGroup? opener closer rest).map
          fun (group, _) => start + utf8Length group.dropLast) := by
  have hrun : (closing? opener closer text start).run
      = some ((closingFrom? opener closer .outside 0 (charOffsets rest)).map (start + ·)) := by
    rw [closing?, h.sliceFrom?]
    rfl
  rw [hrun, charOffsets, closingFrom?_eq, Option.map_map]
  simp only [Nat.zero_add]
  rfl

/-- A group has its opening bracket, a body and its closing bracket. -/
theorem exists_body_of_splitGroup? {opener closer : Char} {group after : List Char}
    (h : Text.splitGroup? opener closer (opener :: rest) = some (group, after)) :
    ∃ body, group = opener :: (body ++ [closer]) := by
  have step {state : QuoteState} {depth : Nat}
      (hc : Text.consToCut opener (Text.splitGroupFrom? opener closer state depth rest)
        = some (group, after)) : ∃ body, group = opener :: (body ++ [closer]) := by
    obtain ⟨tail, rfl, ht⟩ := Text.consToCut_eq_some.1 hc
    obtain ⟨body, rfl⟩ := Text.exists_group_concat ht
    exact ⟨body, rfl⟩
  rw [Text.splitGroup?, Text.splitGroupFrom?] at h
  split at h
  · exact step h
  · rw [if_pos rfl] at h
    exact step h

/-- The text in a group and the bracket that closes it. -/
theorem follows_closing? {opener closer : Char} (h : Place text start (opener :: rest)) :
    Follows (fun read i => slice? text (start + opener.utf8Size) i = some read.1
        ∧ Place text i (closer :: read.2))
      (Text.readGroup? opener closer (opener :: rest)) (closing? opener closer text start) := by
  refine ⟨_, closing?_eq opener closer h, ?_⟩
  rw [Text.readGroup?, if_pos rfl]
  cases hs : Text.splitGroup? opener closer (opener :: rest) with
  | none => exact .none
  | some found =>
    obtain ⟨group, after⟩ := found
    obtain ⟨body, rfl⟩ := exists_body_of_splitGroup? hs
    have happ := (Text.splitGroupFrom?_append hs).2
    have hrest : rest = body ++ closer :: after := by simpa using happ.symm
    have hlast : start + utf8Length (opener :: (body ++ [closer])).dropLast
        = start + opener.utf8Size + utf8Length body := by
      rw [← List.cons_append, List.dropLast_concat, Text.utf8Length_cons, Nat.add_assoc]
    rw [hrest] at h
    refine .some ?_
    simp only [hlast, Text.groupBody, List.tail_cons, List.dropLast_concat]
    exact ⟨h.cons.slice?, h.cons.append⟩

/-- The text in the group at a byte, and the byte behind the group. -/
def readGroup? (opener closer : Char) (text : List Char) (start : Nat) :
    Slicing (List Char × Nat) := do
  let close ← closing? opener closer text start
  let body ← cut (slice? text (start + 1) close)
  pure (body, close + 1)

theorem follows_readGroup? {opener closer : Char} (ho : opener.utf8Size = 1)
    (hc : closer.utf8Size = 1) (h : Place text start (opener :: rest)) :
    Follows (SamePlace text) (Text.readGroup? opener closer (opener :: rest))
      (readGroup? opener closer text start) := by
  refine (follows_closing? h).further fun read close hread => ?_
  obtain ⟨hslice, hplace⟩ := hread
  rw [ho] at hslice
  have hbehind := hplace.cons
  rw [hc] at hbehind
  exact .cut hslice (follows_pure ⟨rfl, hbehind⟩)

/-- The arguments in parentheses at a byte, with blanks in front of them, and the byte behind
them. -/
def readArgs? (text : List Char) (start : Nat) : Slicing (List Char × Nat) := do
  let i ← cut (skipBlank? text start)
  let rest ← cut (sliceFrom? text i)
  if rest.head? = some '(' then readGroup? '(' ')' text i else failure

theorem follows_readArgs? (h : Place text start rest) :
    Follows (SamePlace text) (Text.readGroup? '(' ')' (Text.skipBlank rest))
      (readArgs? text start) := by
  obtain ⟨i, hskip, hi⟩ := exists_skipBlank? h
  refine .cut hskip (.cut hi.sliceFrom? ?_)
  cases hrest : Text.skipBlank rest with
  | nil => exact follows_failure
  | cons c more =>
    rw [hrest] at hi
    by_cases hc : c = '('
    · subst hc
      rw [List.head?_cons, if_pos rfl]
      exact follows_readGroup? (by decide) (by decide) hi
    · rw [Text.readGroup?, if_neg hc, List.head?_cons, if_neg (by simpa using hc)]
      exact follows_failure

/-! ## Literals -/

/-- The byte behind the quote that closes a literal.  `escaped` is set behind a backslash. -/
def closingQuote? (q : Char) (escaped : Bool) : List (Nat × Char) → Option Nat
  | [] => none
  | (i, c) :: rest =>
      if escaped then closingQuote? q false rest
      else if c = '\\' then closingQuote? q true rest
      else if c = q then some (i + c.utf8Size)
      else closingQuote? q false rest

/-- The byte behind the literal whose opening quote is at a byte.  An open literal runs to the
end of the text. -/
def literalEnd? (q : Char) (text : List Char) (start : Nat) : Option Nat := do
  let bodyStart := start + q.utf8Size
  let body ← sliceFrom? text bodyStart
  pure (((closingQuote? q false (charOffsets body)).map (bodyStart + ·)).getD (utf8Length text))

theorem closingQuote?_getD (q : Char) (i : Nat) (text : List Char) :
    (closingQuote? q false (charOffsetsFrom i text)).getD (i + utf8Length text)
      = i + utf8Length (Text.splitLiteral q text).1 := by
  fun_induction Text.splitLiteral q text generalizing i with
  | case1 => rfl
  | case2 => rfl
  | case3 c rest body after hs ih =>
    have ih := ih (i + '\\'.utf8Size + c.utf8Size)
    rw [hs] at ih
    simpa [charOffsetsFrom, closingQuote?, Nat.add_assoc] using ih
  | case4 rest h1 h2 =>
    have hq : q ≠ '\\' := by
      rintro rfl
      cases rest with
      | nil => exact h1 rfl rfl
      | cons d rest => exact h2 d rest rfl rfl
    simp [charOffsetsFrom, closingQuote?, hq]
  | case5 c rest h1 h2 hc body after hs ih =>
    have hb : c ≠ '\\' := by
      rintro rfl
      cases rest with
      | nil => exact h1 rfl rfl
      | cons d rest => exact h2 d rest rfl rfl
    have ih := ih (i + c.utf8Size)
    rw [hs] at ih
    simpa [charOffsetsFrom, closingQuote?, hb, hc, Nat.add_assoc] using ih

/-- A literal ends by offsets where it is cut off. -/
theorem literalEnd?_eq {q : Char} (h : Place text start (q :: rest)) :
    literalEnd? q text start
      = some (start + utf8Length (q :: (Text.splitLiteral q rest).1)) := by
  have hget := closingQuote?_getD q 0 rest
  rw [Nat.zero_add, Nat.zero_add] at hget
  rw [literalEnd?, h.cons.sliceFrom?, ← h.cons.length_eq, Text.utf8Length_cons, ← Nat.add_assoc,
    ← hget]
  simp only [Option.bind_eq_bind, Option.bind_some, charOffsets]
  cases closingQuote? q false (charOffsetsFrom 0 rest) with
  | none => rfl
  | some n => rfl

theorem place_literalEnd {q : Char} (h : Place text start (q :: rest)) :
    Place text (start + utf8Length (q :: (Text.splitLiteral q rest).1))
      (Text.splitLiteral q rest).2 := by
  have hparts : q :: rest = q :: (Text.splitLiteral q rest).1 ++ (Text.splitLiteral q rest).2 := by
    rw [List.cons_append, Text.splitLiteral_append]
  rw [hparts] at h
  exact h.append

end ShellQuery.Offset
