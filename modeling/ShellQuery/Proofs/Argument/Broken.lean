import ShellQuery.Proofs.Argument.Calls
import ShellQuery.Proofs.Argument.Keys
import ShellQuery.Proofs.Argument.Normal

/-!
# Calls inside of strings

A call is looked for in the raw text, so it is found inside of strings too.  In the text
of a JSON value it can start nowhere else.  The object that replaces it then closes the
string with the quote of its own key, and a dollar sign stands right behind a literal.
Such a text is `Broken`.  It stays broken in every later step, and no JSON value has a
broken text, so reading fails.
-/

namespace ShellQuery.Argument

open ShellQuery.Text
open ShellQuery.Spelling

/-! ## Texts of literals -/

/-- A character that a JSON value has outside of its strings. -/
def IsOutside (c : Char) : Prop := isQuote c = false ∧ c ∉ ['O', 'I', 'w', '$']

instance (c : Char) : Decidable (IsOutside c) := inferInstanceAs (Decidable (_ ∧ _))

/-- A text of literals in double quotes and characters outside of them, up to a text with
a property. -/
inductive Lexed (fin : List Char → Prop) : List Char → Prop where
  /-- The last text. -/
  | fin {text : List Char} : fin text → Lexed fin text
  /-- A character outside of literals. -/
  | char {c : Char} {text : List Char} : IsOutside c → Lexed fin text → Lexed fin (c :: text)
  /-- A literal. -/
  | literal {body text : List Char} : IsLiteralBody '"' body → Lexed fin text →
      Lexed fin ('"' :: (body ++ text))

/-- A text that starts with a literal and a dollar sign right behind it. -/
def Breaks (text : List Char) : Prop :=
  ∃ body more, IsLiteralBody '"' body ∧ text = '"' :: (body ++ '$' :: more)

/-- A text of literals and nothing else behind them. -/
def Tidy (text : List Char) : Prop := Lexed (· = []) text

/-- A text in which a dollar sign stands right behind a literal. -/
def Broken (text : List Char) : Prop := Lexed Breaks text

theorem IsOutside.ne_quote {c : Char} (h : IsOutside c) : c ≠ '"' := by
  rintro rfl
  exact absurd h.1 (by decide)

section

variable {fin : List Char → Prop} {text : List Char}

/-- Characters outside of literals in front of a text. -/
theorem Lexed.append {front : List Char} (hf : ∀ c ∈ front, IsOutside c) (h : Lexed fin text) :
    Lexed fin (front ++ text) := by
  induction front with
  | nil => exact h
  | cons c front ih =>
    rw [List.forall_mem_cons] at hf
    exact .char hf.1 (ih hf.2)

/-- A character at the start stands outside of literals, if it is no quote. -/
theorem Lexed.cons_inv (hend : ∀ c text, fin (c :: text) → c = '"') {c : Char} (hc : c ≠ '"')
    (h : Lexed fin (c :: text)) : IsOutside c ∧ Lexed fin text := by
  generalize ht : c :: text = whole at h
  cases h with
  | fin h => exact absurd (hend c text (ht ▸ h)) hc
  | char hout h =>
    obtain ⟨rfl, rfl⟩ := List.cons.inj ht
    exact ⟨hout, h⟩
  | literal _ _ => exact absurd (List.cons.inj ht).1 hc

theorem breaks_cons (c : Char) (text : List Char) (h : Breaks (c :: text)) : c = '"' := by
  obtain ⟨body, more, -, ht⟩ := h
  exact (List.cons.inj ht).1

theorem nil_cons (c : Char) (text : List Char) (h : c :: text = []) : c = '"' := by
  cases h

/-- A tidy text is not broken. -/
theorem Tidy.not_broken (h : Tidy text) : ¬ Broken text := by
  intro hb
  -- the literal that the dollar sign follows is one of the tidy text too
  have hliteral : ∀ {body rest : List Char}, IsLiteralBody '"' body →
      Tidy ('"' :: (body ++ rest)) → Tidy rest := by
    intro body rest hbody ht
    generalize hw : '"' :: (body ++ rest) = whole at ht
    cases ht with
    | fin h => cases hw.trans h
    | char hout _ => exact absurd (List.cons.inj hw).1.symm hout.ne_quote
    | literal hbody' ht =>
      obtain ⟨-, rfl⟩ := isLiteralBody_append_inj hbody hbody' (List.cons.inj hw).2
      exact ht
  induction hb with
  | fin hbreaks =>
    obtain ⟨body, more, hbody, rfl⟩ := hbreaks
    have hdollar := (hliteral hbody h).cons_inv nil_cons (by decide)
    exact absurd hdollar.1.2 (by decide)
  | char hout _ ih => exact ih (Lexed.cons_inv nil_cons hout.ne_quote h).2
  | literal hbody _ ih => exact ih (hliteral hbody h)

end

/-! ## The text of a JSON value -/

theorem isOutside_of_isNumberChar {c : Char} (h : Json.isNumberChar c = true) : IsOutside c := by
  refine ⟨(isPlainChar_of_isNumberChar h).1, ?_⟩
  rintro hm
  simp only [List.mem_cons, List.not_mem_nil, or_false] at hm
  rcases hm with rfl | rfl | rfl | rfl <;> revert h <;> decide

section

variable {fin : List Char → Prop} {rest : List Char}

theorem Lexed.space (space : Space) (h : Lexed fin rest) : Lexed fin (space.text ++ rest) :=
  h.append fun c hc => Json.of_isSpace (space.space c hc) (by decide)

theorem Lexed.mark {c : Char} (hc : IsMark c) (h : Lexed fin rest) : Lexed fin (c :: rest) :=
  .char (hc.elim (by decide)) h

/-- A literal in double quotes in front of a text. -/
theorem Lexed.quoted {l : Literal} (hq : l.quote = '"') (h : Lexed fin rest) :
    Lexed fin (l.text ++ rest) := by
  have hb := l.spells.isLiteralBody l.quote_isQuote
  have ht : l.text ++ rest = '"' :: ((l.written ++ ['"']) ++ rest) := by
    simp [Literal.text, hq]
  rw [hq] at hb
  rw [ht]
  exact .literal hb h

theorem Lexed.leaf {a : Leaf} (ha : a.Plain) (h : Lexed fin rest) :
    Lexed fin (a.text ++ rest) := by
  cases a with
  | null => exact h.append (List.all_iff_forall_prop.1 (by decide))
  | bool b => cases b <;> exact h.append (List.all_iff_forall_prop.1 (by decide))
  | number n => exact h.append fun c hc => isOutside_of_isNumberChar (n.isNumber.chars c hc)
  | string l => exact h.quoted ha
  | call c => exact ha.elim

theorem Lexed.comma_items (items : Items) (h : Lexed fin rest) :
    Lexed fin (items.comma ++ rest) := by
  cases items with
  | nil => exact h
  | cons => exact h.mark (by simp [IsMark])

theorem Lexed.comma_members (members : Members) (h : Lexed fin rest) :
    Lexed fin (members.comma ++ rest) := by
  cases members with
  | nil => exact h
  | cons => exact h.mark (by simp [IsMark])

mutual

/-- A tree in front of a text of literals. -/
theorem Lexed.tree : ∀ (t : Tree), t.Plain → ∀ {rest : List Char}, Lexed fin rest →
    Lexed fin (t.text ++ rest)
  | .leaf a, ht, _, h => h.leaf ht
  | .array inner items, ht, rest, h => by
      have hbracket : Lexed fin (']' :: rest) := h.mark (by simp [IsMark])
      have hitems := (Lexed.items items ht hbracket).space inner
      simpa [Tree.text] using hitems.mark (c := '[') (by simp [IsMark])
  | .object inner members, ht, rest, h => by
      have hbrace : Lexed fin ('\x7d' :: rest) := h.mark (by simp [IsMark])
      have hmembers := (Lexed.members members ht hbrace).space inner
      simpa [Tree.text] using hmembers.mark (c := '\x7b') (by simp [IsMark])

theorem Lexed.items : ∀ (items : Items), items.Plain → ∀ {rest : List Char}, Lexed fin rest →
    Lexed fin (items.text ++ rest)
  | .nil, _, _, h => h
  | .cons before value after more, ht, rest, h => by
      have hmore := ((Lexed.items more ht.2 h).comma_items more).space after
      simpa [Items.text] using (Lexed.tree value ht.1 hmore).space before

theorem Lexed.members : ∀ (members : Members), members.Plain → ∀ {rest : List Char},
    Lexed fin rest → Lexed fin (members.text ++ rest)
  | .nil, _, _, h => h
  | .cons beforeKey key afterKey before value after more, ht, rest, h => by
      have hmore := ((Lexed.members more ht.2.2 h).comma_members more).space after
      have hvalue := (Lexed.tree value ht.2.1 hmore).space before
      have hcolon := (hvalue.mark (c := ':') (by simp [IsMark])).space afterKey
      cases key with
      | bare n => exact ht.1.elim
      | quoted l => simpa [Members.text, Key.text] using (hcolon.quoted ht.1).space beforeKey

end

/-- The text of plain items is tidy. -/
theorem tidy_items (inner : Space) {items : Items} (h : items.Plain) :
    Tidy (inner.text ++ items.text) := by
  have hnil : Tidy [] := .fin rfl
  have hitems := (Lexed.items items h hnil).space inner
  rwa [List.append_nil] at hitems

end

/-! ## Calls that are found -/

section

variable {ks : List Constructor} {before : Option Char}

/-- No call of the constructors is found at any place of a text.  `before` is the character
in front of the text. -/
def FindsNone (ks : List Constructor) (before : Option Char) (text : List Char) : Prop :=
  ∀ front rest, text = front ++ rest → readCall? ks (front.getLast?.or before) rest = none

theorem findsNone_nil : FindsNone ks before [] := by
  intro front rest h
  obtain ⟨rfl, rfl⟩ := List.append_eq_nil_iff.1 h.symm
  exact readCall?_nil _

theorem findsNone_cons {c : Char} {text : List Char} :
    FindsNone ks before (c :: text)
      ↔ readCall? ks before (c :: text) = none ∧ FindsNone ks (some c) text := by
  have hlast : ∀ front : List Char,
      (c :: front).getLast?.or before = front.getLast?.or (some c) := by
    intro front
    rw [List.getLast?_cons]
    cases front.getLast? <;> rfl
  constructor
  · intro h
    refine ⟨h [] (c :: text) rfl, fun front rest ht => ?_⟩
    rw [← hlast]
    exact h (c :: front) rest (congrArg (c :: ·) ht)
  · rintro ⟨hc, h⟩ front rest ht
    cases front with
    | nil =>
      obtain rfl : c :: text = rest := ht
      exact hc
    | cons d front =>
      obtain ⟨rfl, htail⟩ := List.cons.inj ht
      rw [hlast]
      exact h front rest htail

/-- A text stays when no call is found in it. -/
theorem replaceCalls_of_findsNone {text : List Char} (h : FindsNone ks before text) :
    replaceCalls ks before text = text := by
  induction text generalizing before with
  | nil => exact replaceCalls_nil before
  | cons c text ih =>
    obtain ⟨hc, h⟩ := findsNone_cons.1 h
    rw [replaceCalls_of_none hc, ih h]

/-- The object for a call starts with a brace, a quote and a dollar sign. -/
theorem exists_object_of_readCall? {text object rest : List Char}
    (h : readCall? ks before text = some (object, rest)) :
    ∃ more, object = '\x7b' :: '"' :: '$' :: more := by
  obtain ⟨k, -, hk⟩ := List.exists_of_findSome?_eq_some h
  unfold Constructor.readCall? at hk
  split at hk
  · cases hk
  · obtain ⟨_, _, hk⟩ := Option.bind_eq_some_iff.1 hk
    obtain ⟨_, _, hk⟩ := Option.bind_eq_some_iff.1 hk
    obtain ⟨⟨_, _⟩, _, hk⟩ := Option.bind_eq_some_iff.1 hk
    obtain ⟨_, _, hk⟩ := Option.bind_eq_some_iff.1 hk
    simp only [Option.pure_def, Option.some.injEq, Prod.mk.injEq] at hk
    rw [← hk.1]
    cases k <;> exact ⟨_, rfl⟩

/-- A literal that is left early is closed by a quote behind a brace. -/
theorem isLiteralBody_reopened {front back : List Char} {c : Char}
    (h : IsLiteralBody '"' (front ++ c :: back)) : IsLiteralBody '"' (front ++ ['\x7b', '"']) := by
  have hend : IsLiteralBody '"' ['\x7b', '"'] := .char (by decide) (by decide) (.close '"')
  generalize hw : front ++ c :: back = whole at h
  induction h generalizing front with
  | close =>
    cases front with
    | nil => exact hend
    | cons d front => simp at hw
  | @escape d body _ ih =>
    cases front with
    | nil => exact hend
    | cons d' front =>
      obtain ⟨rfl, hw₁⟩ := List.cons.inj hw
      cases front with
      | nil => exact .escape (.close '"')
      | cons e front =>
        obtain ⟨rfl, hw₂⟩ := List.cons.inj hw₁
        exact .escape (ih hw₂)
  | char hne hb _ ih =>
    cases front with
    | nil => exact hend
    | cons d' front =>
      obtain ⟨rfl, hw₁⟩ := List.cons.inj hw
      exact .char hne hb (ih hw₁)

/-- The rest of a literal: it stays, or a call starts in it and the literal breaks. -/
theorem replaceCalls_literal (ks : List Constructor) (front : List Char) {back : List Char}
    (hb : IsLiteralBody '"' (front ++ back)) (before : Option Char) (rest : List Char) :
    (∃ last, replaceCalls ks before (back ++ rest) = back ++ replaceCalls ks last rest
        ∧ (FindsNone ks last rest → FindsNone ks before (back ++ rest)))
      ∨ Breaks ('"' :: (front ++ replaceCalls ks before (back ++ rest))) := by
  induction back generalizing front before with
  | nil => exact .inl ⟨before, rfl, id⟩
  | cons c back ih =>
    cases hr : readCall? ks before (c :: (back ++ rest)) with
    | none =>
      have hb' : IsLiteralBody '"' ((front ++ [c]) ++ back) := by simpa using hb
      rcases ih (front ++ [c]) hb' (some c) with ⟨last, hrun, hnone⟩ | hbreaks
      · refine .inl ⟨last, ?_, fun h => findsNone_cons.2 ⟨hr, hnone h⟩⟩
        rw [List.cons_append, replaceCalls_of_none hr, hrun, List.cons_append]
      · refine .inr ?_
        rw [List.cons_append, replaceCalls_of_none hr]
        simpa using hbreaks
    | some found =>
      obtain ⟨object, after⟩ := found
      obtain ⟨more, rfl⟩ := exists_object_of_readCall? hr
      refine .inr ⟨front ++ ['\x7b', '"'], more ++ replaceCalls ks (some ')') after,
        isLiteralBody_reopened hb, ?_⟩
      rw [List.cons_append, replaceCalls_of_some hr]
      simp

/-- No call is found in a text, or the text breaks when its calls are replaced. -/
def Scanned (ks : List Constructor) (before : Option Char) (text : List Char) : Prop :=
  FindsNone ks before text ∨ Broken (replaceCalls ks before text)

variable {fin : List Char → Prop} {text : List Char}

/-- No call starts outside of literals. -/
theorem Lexed.readCall?_eq_none (hend : ∀ c text, fin (c :: text) → c = '"') {c : Char}
    (hc : IsOutside c) (h : Lexed fin text) (before : Option Char) :
    readCall? ks before (c :: text) = none := by
  refine Spelling.readCall?_eq_none fun k _ start more hs he => ?_
  rcases hs.head with ⟨tail, rfl⟩ | ⟨d, tail, rfl, hd⟩
  · obtain ⟨-, rfl⟩ := List.cons.inj he
    have hw := (h.cons_inv hend (by decide)).2.cons_inv hend (by decide)
    exact absurd hw.1 (by decide)
  · obtain ⟨rfl, -⟩ := List.cons.inj he
    rcases hd with rfl | rfl
    · exact absurd hc (by decide)
    · exact absurd hc (by decide)

/-- In a text of literals no call is found, or the text breaks. -/
theorem Lexed.scanned (hend : ∀ c text, fin (c :: text) → c = '"')
    (hfin : ∀ before text, fin text → Scanned ks before text) (h : Lexed fin text)
    (before : Option Char) : Scanned ks before text := by
  induction h generalizing before with
  | fin h => exact hfin before _ h
  | @char c text hc h ih =>
    have hr : readCall? ks before (c :: text) = none := h.readCall?_eq_none hend hc before
    rcases ih (some c) with hnone | hbroken
    · exact .inl (findsNone_cons.2 ⟨hr, hnone⟩)
    · refine .inr ?_
      rw [replaceCalls_of_none hr]
      exact .char hc hbroken
  | @literal body text hb h ih =>
    have hr : readCall? ks before ('"' :: (body ++ text)) = none :=
      readCall?_cons (by decide) before _
    rcases replaceCalls_literal ks [] hb (some '"') text with
      ⟨last, hrun, hnone⟩ | hbreaks
    · rcases ih last with hfound | hbroken
      · exact .inl (findsNone_cons.2 ⟨hr, hnone hfound⟩)
      · refine .inr ?_
        rw [replaceCalls_of_none hr, hrun]
        exact .literal hb hbroken
    · refine .inr ?_
      rw [replaceCalls_of_none hr]
      exact .fin hbreaks

/-- In the text of a JSON value no call is found, or the text breaks. -/
theorem Tidy.scanned (h : Tidy text) (ks : List Constructor) (before : Option Char) :
    Scanned ks before text :=
  Lexed.scanned nil_cons (fun _ _ ht => .inl (ht ▸ findsNone_nil)) h before

/-- A broken text stays broken when its calls are replaced. -/
theorem Broken.replaceCalls (h : Broken text) (before : Option Char) :
    Broken (replaceCalls ks before text) := by
  have hfin : ∀ before text, Breaks text → Scanned ks before text := by
    rintro before _ ⟨body, more, hb, rfl⟩
    refine .inr (.fin ?_)
    rw [replaceCalls_cons (by decide)]
    rcases replaceCalls_literal ks [] hb (some '"') ('$' :: more) with
      ⟨last, hrun, -⟩ | hbreaks
    · rw [hrun, replaceCalls_cons (by decide)]
      exact ⟨body, _, hb, rfl⟩
    · exact hbreaks
  rcases Lexed.scanned breaks_cons hfin h before with hnone | hbroken
  · rw [replaceCalls_of_findsNone hnone]
    exact h
  · exact hbroken

end

/-! ## Broken texts in the other steps -/

section

variable {text : List Char}

/-- The characters of an identifier in a broken text stand outside of literals. -/
theorem Broken.ident (h : Broken text) :
    (∀ c ∈ text.takeWhile isIdentChar, IsOutside c) ∧ Broken (text.dropWhile isIdentChar) := by
  have hquote : ∀ rest, ('"' :: rest).takeWhile isIdentChar = []
      ∧ ('"' :: rest).dropWhile isIdentChar = '"' :: rest := by
    intro rest
    have hq : isIdentChar '"' = false := by decide
    exact ⟨by rw [List.takeWhile_cons, hq]; rfl, by rw [List.dropWhile_cons, hq]; rfl⟩
  induction h with
  | fin h =>
    obtain ⟨body, more, -, rfl⟩ := id h
    rw [(hquote _).1, (hquote _).2]
    exact ⟨nofun, .fin h⟩
  | @char c text hc h ih =>
    rw [List.takeWhile_cons, List.dropWhile_cons]
    split
    · rw [List.forall_mem_cons]
      exact ⟨⟨hc, ih.1⟩, ih.2⟩
    · exact ⟨nofun, .char hc h⟩
  | literal hb h _ =>
    rw [(hquote _).1, (hquote _).2]
    exact ⟨nofun, .literal hb h⟩

/-- Behind a literal a dollar sign stays. -/
theorem quoteKeysFrom_dollar (more : List Char) :
    ∃ rest, quoteKeysFrom (some '"') ('$' :: more) = '$' :: rest := by
  have hq : isQuote '$' = false := by decide
  have hi : isIdentStart '$' = true := by decide
  rw [quoteKeysFrom, if_neg (by simp [hq]), if_pos hi]
  exact ⟨_, rfl⟩

/-- A broken text stays broken when keys and strings are put into double quotes. -/
theorem Broken.quoteKeysFrom (h : Broken text) (last : Option Char) :
    Broken (quoteKeysFrom last text) := by
  fun_induction Argument.quoteKeysFrom last text with
  | case1 last =>
    generalize ht : [] = text at h
    cases h with
    | fin h =>
      obtain ⟨body, more, -, rfl⟩ := h
      cases ht
    | char _ _ => cases ht
    | literal _ _ => cases ht
  | case2 last c rest hq ih =>
    generalize ht : c :: rest = text at h
    cases h with
    | fin h =>
      obtain ⟨body, more, hb, rfl⟩ := h
      obtain ⟨rfl, rfl⟩ := List.cons.inj ht
      rw [splitLiteral_of_isLiteralBody (by decide) hb]
      obtain ⟨rest, hrest⟩ := quoteKeysFrom_dollar more
      refine .fin ⟨body, rest, hb, ?_⟩
      rw [hrest, doubleQuoted, if_pos rfl, List.cons_append]
    | char hc _ =>
      obtain ⟨rfl, rfl⟩ := List.cons.inj ht
      rw [hc.1] at hq
      cases hq
    | literal hb h =>
      obtain ⟨rfl, rfl⟩ := List.cons.inj ht
      rw [splitLiteral_of_isLiteralBody (by decide) hb] at ih ⊢
      rw [doubleQuoted, if_pos rfl, List.cons_append]
      exact .literal hb (ih h)
  | case3 last c rest hq hi ident after ih =>
    have hc : c ≠ '"' := by
      rintro rfl
      exact absurd hi (by decide)
    obtain ⟨hout, h₁⟩ := Lexed.cons_inv breaks_cons hc h
    obtain ⟨htail, h₂⟩ := Broken.ident h₁
    have hident : ∀ d ∈ ident, IsOutside d := List.forall_mem_cons.2 ⟨hout, htail⟩
    split
    · -- the key becomes a literal
      have hb : IsLiteralBody '"' (ident ++ ['"']) := by
        refine isLiteralBody_append (fun d hd => ?_) (.close '"')
        have hchar : isIdentChar d = true := by
          rcases List.mem_cons.1 hd with rfl | hd
          · exact isIdentChar_of_isIdentStart hi
          · exact List.all_eq_true.1 List.all_takeWhile d hd
        refine ⟨(hident d hd).ne_quote, ?_⟩
        rintro rfl
        exact absurd hchar (by decide)
      exact .literal hb (ih h₂)
    · exact (ih h₂).append hident
  | case4 last c rest hq hi ih =>
    have hc : c ≠ '"' := by
      rintro rfl
      exact hq (by decide)
    obtain ⟨hout, h₁⟩ := Lexed.cons_inv breaks_cons hc h
    exact .char hout (ih h₁)

/-- A broken text stays broken when its dates are taken out. -/
theorem Broken.swapped (h : Broken text) {dates : List (List Char)} {n : Nat}
    {text' : List Char} (hs : Swapped dates n text text') : Broken text' := by
  induction h generalizing n text' with
  | fin h =>
    obtain ⟨body, more, hb, rfl⟩ := h
    rcases hs.literal_inv hb with ⟨rest, rfl, h₁⟩ | ⟨date, m, rest, -, -, -, -, -, rfl, h₁⟩
    · obtain ⟨rest', rfl, -⟩ := h₁.cons_inv (by decide)
      exact .fin ⟨body, rest', hb, rfl⟩
    · obtain ⟨rest', rfl, -⟩ := h₁.cons_inv (by decide)
      refine .fin ⟨placeholder m ++ ['"'], rest', ?_, by simp⟩
      exact (placeholderLiteral m).spells.isLiteralBody (by decide)
  | char hc _ ih =>
    obtain ⟨rest, rfl, h₁⟩ := hs.cons_inv hc.ne_quote
    exact .char hc (ih h₁)
  | literal hb _ ih =>
    rcases hs.literal_inv hb with ⟨rest, rfl, h₁⟩ | ⟨date, m, rest, -, -, -, -, -, rfl, h₁⟩
    · exact .literal hb (ih h₁)
    · have hp : IsLiteralBody '"' (placeholder m ++ ['"']) :=
        (placeholderLiteral m).spells.isLiteralBody (by decide)
      have htext : '"' :: (placeholder m ++ '"' :: rest)
          = '"' :: ((placeholder m ++ ['"']) ++ rest) := by
        simp
      rw [htext]
      exact .literal hp (ih h₁)

/-- A broken text is not read. -/
theorem Broken.parse (h : Broken text) (v : Json) :
    Json.parse ('[' :: text ++ [']']) ≠ .ok v := by
  intro hparse
  obtain ⟨inner, items, rfl, hp, -, -⟩ := exists_items_of_parse hparse
  exact (tidy_items inner hp).not_broken h

/-- No values come from an argument whose calls are replaced by a broken text. -/
theorem normalize_ne_ok_of_broken (h : Broken (replaceConstructors text)) (items : List Json) :
    normalize text ≠ .ok items := by
  have hbroken : Broken (protectDates (quoteKeys (replaceConstructors text))).1 :=
    (h.quoteKeysFrom none).swapped (swapped_protectDates _)
  intro hok
  rw [normalize] at hok
  dsimp only at hok
  cases hparse : Json.parse ('[' :: (protectDates (quoteKeys (replaceConstructors text))).1
      ++ [']']) with
  | ok v => exact hbroken.parse v hparse
  | error detail =>
    rw [hparse] at hok
    cases hok

end

end ShellQuery.Argument
