import ShellQuery.Argument.Quoting
import ShellQuery.Proofs.Argument.Pass
import ShellQuery.Proofs.Argument.Reading

/-!
# Quoted keys and strings in the text of a value

The step that puts keys and strings into double quotes is a pass.  A string in other
quotes gets new escapes, but it stands for the same characters: `spells_requote`.  An
identifier is quoted in front of a colon and behind a brace or a comma, so a key is
quoted and a word or the exponent of a number is not.

Behind this pass a tree without calls is plain, and a plain tree stays as it is.
-/

namespace ShellQuery.Spelling

open ShellQuery.Text
open ShellQuery.Argument (requote dropDelimiter doubleQuoted isKeyPlace quoteKeysFrom quoteKeys)
open ShellQuery.Json (Spells IsEscape IsHexUnit isNumberChar)

/-! ## Strings in other quotes -/

theorem requote_append {q : Char} {front : List Char}
    (h : ∀ c ∈ front, isQuote c = false ∧ c ≠ '\\' ∧ c ≠ '\n') (w : List Char) :
    requote q (front ++ w) = front ++ requote q w := by
  induction front with
  | nil => rfl
  | cons c front ih =>
    rw [List.forall_mem_cons] at h
    obtain ⟨⟨hq, hb, hn⟩, hf⟩ := h
    have hd : c ≠ '"' := by
      rintro rfl
      revert hq
      decide
    rw [List.cons_append, requote, ih hf, List.cons_append]
    all_goals simp_all

theorem requote_escape (q c : Char) (w : List Char) :
    requote q ('\\' :: c :: w)
      = if c = q then c :: requote q w else '\\' :: c :: requote q w := by
  rw [requote]

theorem plain_of_isHexUnit {h : List Char} {n : Nat} (hu : IsHexUnit h n) :
    ∀ c ∈ h, isQuote c = false ∧ c ≠ '\\' ∧ c ≠ '\n' := by
  intro c hc
  have hs := Json.isEscapeChar_of_isHexUnit hu c hc
  obtain ⟨hq, hb⟩ := Json.plain_of_hexDigit? hs
  refine ⟨hq, hb, ?_⟩
  rintro rfl
  revert hs
  decide

/-- An escape stays as it is: it does not start with the quote. -/
theorem requote_isEscape {q : Char} (hq : q = '\'' ∨ q = '\x60') {e : List Char} {c : Char}
    (he : IsEscape e c) (w : List Char) :
    requote q ('\\' :: e ++ w) = '\\' :: e ++ requote q w := by
  have hne : ∀ d ∈ ['"', '\\', '/', 'b', 'f', 'n', 'r', 't', 'u'], d ≠ q := by
    rcases hq with rfl | rfl <;> exact List.all_iff_forall_prop.1 (by decide)
  cases he with
  | @simple e c hm =>
    have hme : e ∈ ['"', '\\', '/', 'b', 'f', 'n', 'r', 't', 'u'] := by
      simp only [Json.simpleEscapes, List.mem_cons, Prod.mk.injEq, List.not_mem_nil, or_false] at hm
      rcases hm with h | h | h | h | h | h | h | h <;> simp [h.1]
    simp only [List.cons_append, List.nil_append]
    rw [requote_escape, if_neg (hne e hme)]
  | unit hu _ _ =>
    simp only [List.cons_append]
    rw [requote_escape, if_neg (hne 'u' (by decide)), requote_append (plain_of_isHexUnit hu)]
  | pair hu hu' _ _ =>
    simp only [List.cons_append, List.append_assoc]
    rw [requote_escape, if_neg (hne 'u' (by decide)), requote_append (plain_of_isHexUnit hu),
      requote_escape, if_neg (hne 'u' (by decide)), requote_append (plain_of_isHexUnit hu')]

/-- A string in other quotes stands for the same characters in double quotes. -/
theorem spells_requote {q : Char} (hq : q = '\'' ∨ q = '\x60') {w s : List Char}
    (h : Spells q w s) : Spells '"' (requote q w) s := by
  induction h with
  | nil => exact .nil
  | @plain c w s hne hb hc _ ih =>
    have hn : c ≠ '\n' := by
      rintro rfl
      revert hc
      decide
    by_cases hd : c = '"'
    · subst hd
      have hr : requote q ('"' :: w) = '\\' :: ['"'] ++ requote q w := by rw [requote]; rfl
      rw [hr]
      exact .escape (.simple (by decide)) ih
    · have hr : requote q (c :: w) = c :: requote q w := by
        rw [requote]
        all_goals simp_all
      rw [hr]
      exact .plain hd hb hc ih
  | @quote w s _ ih =>
    rw [requote_escape, if_pos rfl]
    rcases hq with rfl | rfl <;> exact .plain (by decide) (by decide) (by decide) ih
  | escape he _ ih =>
    rw [requote_isEscape hq he]
    exact .escape he ih

/-! ## Steps of the pass -/

theorem quoteKeysFrom_nil (last : Option Char) : quoteKeysFrom last [] = [] := by
  rw [quoteKeysFrom]

/-- A literal is put into double quotes. -/
theorem quoteKeysFrom_literal {q : Char} {body : List Char} (hq : isQuote q = true)
    (hb : IsLiteralBody q body) (last : Option Char) (rest : List Char) :
    quoteKeysFrom last (q :: (body ++ rest))
      = doubleQuoted q body ++ quoteKeysFrom (some '"') rest := by
  rw [quoteKeysFrom, if_pos hq, splitLiteral_of_isLiteralBody (ne_backslash_of_isQuote hq) hb]

/-- An identifier is quoted where it is a key. -/
theorem quoteKeysFrom_ident {c : Char} {tail : List Char} (hc : isIdentStart c = true)
    (ht : ∀ d ∈ tail, isIdentChar d = true) {rest : List Char}
    (hr : ∀ d ∈ rest.head?, isIdentChar d = false) (last : Option Char) :
    quoteKeysFrom last (c :: (tail ++ rest))
      = (if isKeyPlace last rest then '"' :: (c :: tail) ++ ['"'] else c :: tail)
        ++ quoteKeysFrom (c :: tail).getLast? rest := by
  have hread := readIdent?_append_eq hc ht hr
  have hq : isQuote c = false := isQuote_eq_false hc (by decide)
  rw [List.cons_append, readIdent?, if_pos hc] at hread
  simp only [Option.some.injEq, Prod.mk.injEq, List.cons.injEq, true_and] at hread
  rw [quoteKeysFrom, if_neg (by simp [hq]), if_pos hc]
  simp only [hread.1, hread.2]

/-- Any other character is left alone. -/
theorem quoteKeysFrom_cons {c : Char} (hq : isQuote c = false) (hi : isIdentStart c = false)
    (last : Option Char) (rest : List Char) :
    quoteKeysFrom last (c :: rest)
      = c :: quoteKeysFrom (if isBlank c then last else some c) rest := by
  rw [quoteKeysFrom, if_neg (by simp [hq]), if_neg (by simp [hi])]

theorem noIdent_of_skipSpace {rest : List Char}
    (h : ∀ c ∈ (Json.skipSpace rest).head?, isIdentChar c = false) :
    ∀ c ∈ rest.head?, isIdentChar c = false := by
  intro c hc
  cases rest with
  | nil => simp at hc
  | cons d more =>
    obtain rfl : d = c := by simpa using hc
    cases hs : Json.isSpace d with
    | true => exact isIdentChar_of_isBlank (isBlank_of_isSpace hs)
    | false => exact h d (by rw [skipSpace_cons hs]; rfl)

theorem skipBlank_of_skipSpace {rest : List Char}
    (h : ∀ c ∈ (Json.skipSpace rest).head?, isBlank c = false) :
    skipBlank rest = Json.skipSpace rest := by
  obtain ⟨space, hs⟩ := exists_eq_append_skipSpace rest
  conv => lhs; rw [hs]
  rw [skipBlank_append fun d hd => isBlank_of_isSpace (space.space d hd)]
  cases hn : Json.skipSpace rest with
  | nil => rfl
  | cons d more => exact skipBlank_cons (h d (by rw [hn]; rfl)) more

/-- A character of a word or a number. -/
def IsPlainChar (c : Char) : Prop := isQuote c = false ∧ isBlank c = false ∧ c ≠ ':'

instance : DecidablePred IsPlainChar := fun c =>
  inferInstanceAs (Decidable (isQuote c = false ∧ isBlank c = false ∧ c ≠ ':'))

theorem noIdent_of_endsValue {rest : List Char} (h : EndsValue rest) :
    ∀ c ∈ rest.head?, isIdentChar c = false := by
  refine noIdent_of_skipSpace fun c hc => ?_
  rcases h c hc with rfl | rfl | rfl <;> decide

/-- No colon follows a value. -/
theorem isKeyPlace_of_endsValue {rest : List Char} (h : EndsValue rest) (last : Option Char) :
    isKeyPlace last rest = false := by
  have hs : skipBlank rest = Json.skipSpace rest := by
    refine skipBlank_of_skipSpace fun c hc => ?_
    rcases h c hc with rfl | rfl | rfl <;> decide
  have hne : ((skipBlank rest).head? == some ':') = false := by
    rw [hs]
    cases hh : (Json.skipSpace rest).head? with
    | none => rfl
    | some c =>
      rcases h c hh with rfl | rfl | rfl <;> rfl
  rw [isKeyPlace, hne, Bool.and_false]

/-- No colon follows inside a word or a number. -/
theorem isKeyPlace_of_plain {c : Char} (h : IsPlainChar c) (last : Option Char)
    (rest : List Char) : isKeyPlace last (c :: rest) = false := by
  obtain ⟨-, hb, hc⟩ := h
  have hne : ((skipBlank (c :: rest)).head? == some ':') = false := by
    rw [skipBlank_cons hb]
    simpa using hc
  rw [isKeyPlace, hne, Bool.and_false]

/-- A word or a number is left alone where a value ends. -/
theorem quoteKeysFrom_plain {text : List Char} (h : ∀ c ∈ text, IsPlainChar c)
    {rest : List Char} (hr : EndsValue rest) (last : Option Char) :
    ∃ last', quoteKeysFrom last (text ++ rest) = text ++ quoteKeysFrom last' rest := by
  -- an identifier is taken off as a whole, so the induction is on the length
  induction hn : text.length using Nat.strongRecOn generalizing text last with
  | ind n ih =>
    cases text with
    | nil => exact ⟨last, rfl⟩
    | cons c text =>
      rw [List.forall_mem_cons] at h
      obtain ⟨⟨hq, hb, -⟩, ht⟩ := h
      by_cases hi : isIdentStart c = true
      · have hs := List.takeWhile_append_dropWhile (p := isIdentChar) (l := text)
        have htail : ∀ d ∈ text.takeWhile isIdentChar, isIdentChar d = true :=
          fun d hd => List.all_eq_true.1 List.all_takeWhile d hd
        have hhead := List.head?_dropWhile_not isIdentChar text
        generalize text.takeWhile isIdentChar = tail at hs htail
        generalize text.dropWhile isIdentChar = more at hs hhead
        subst hs
        have hmore : ∀ d ∈ more, IsPlainChar d := fun d hd => ht d (List.mem_append_right tail hd)
        obtain ⟨last', h'⟩ := ih more.length
          (by rw [← hn, List.length_cons, List.length_append]; omega) hmore
          (c :: tail).getLast? rfl
        refine ⟨last', ?_⟩
        -- what follows the identifier is more of the number, or what ends the value
        have hends : (∀ d ∈ (more ++ rest).head?, isIdentChar d = false)
            ∧ isKeyPlace last (more ++ rest) = false := by
          cases more with
          | nil => exact ⟨noIdent_of_endsValue hr, isKeyPlace_of_endsValue hr last⟩
          | cons d more =>
            refine ⟨?_, isKeyPlace_of_plain (hmore d (List.mem_cons_self ..)) last _⟩
            intro e he
            obtain rfl : d = e := by simpa using he
            simpa using hhead
        rw [List.cons_append, List.append_assoc, quoteKeysFrom_ident hi htail hends.1, hends.2,
          h']
        simp
      · obtain ⟨last', h'⟩ := ih text.length (by rw [← hn]; simp) ht (some c) rfl
        refine ⟨last', ?_⟩
        rw [List.cons_append, quoteKeysFrom_cons hq (by simpa using hi), hb]
        simp [h']

/-! ## The pass -/

/-- A literal in double quotes. -/
def requoteLiteral (l : Literal) : Literal :=
  if h : l.quote = '\'' ∨ l.quote = '\x60' then
    { quote := '"', written := requote l.quote l.written, chars := l.chars
      quote_isQuote := isQuote_doubleQuote, spells := spells_requote h l.spells }
  else l

theorem requoteLiteral_of_quote_eq {l : Literal} (h : l.quote = '"') : requoteLiteral l = l := by
  rw [requoteLiteral, dif_neg]
  rw [h]
  decide

theorem requoteLiteral_chars (l : Literal) : (requoteLiteral l).chars = l.chars := by
  unfold requoteLiteral
  split <;> rfl

theorem requoteLiteral_quote (l : Literal) : (requoteLiteral l).quote = '"' := by
  unfold requoteLiteral
  split
  · rfl
  · rename_i h
    rcases eq_of_isQuote l.quote_isQuote with hq | hq
    · exact hq
    · exact absurd hq h

theorem doubleQuoted_literal (l : Literal) :
    doubleQuoted l.quote (l.written ++ [l.quote]) = (requoteLiteral l).text := by
  unfold requoteLiteral
  split
  · rename_i h
    have hne : l.quote ≠ '"' := by rcases h with h | h <;> rw [h] <;> decide
    rw [doubleQuoted, if_neg hne, dropDelimiter, if_pos (by simp), List.dropLast_concat]
    rfl
  · have hq := requoteLiteral_quote l
    rename_i h
    rw [requoteLiteral, dif_neg h] at hq
    rw [doubleQuoted, if_pos hq, ← hq]
    rfl

/-- A literal in the text of a value. -/
theorem quoteKeysFrom_text (l : Literal) (last : Option Char) (rest : List Char) :
    quoteKeysFrom last (l.text ++ rest)
      = (requoteLiteral l).text ++ quoteKeysFrom (some '"') rest := by
  have hs : l.text ++ rest = l.quote :: ((l.written ++ [l.quote]) ++ rest) := by
    simp [Literal.text]
  rw [hs, quoteKeysFrom_literal l.quote_isQuote (l.spells.isLiteralBody l.quote_isQuote),
    doubleQuoted_literal]

/-- The leaf for a leaf when strings are put into double quotes. -/
def requoteLeaf : Leaf → Leaf
  | .string l => .string (requoteLiteral l)
  | a => a

/-- The key for a key when keys are put into double quotes. -/
def requoteKey : Key → Key
  | .bare n =>
      .quoted ⟨'"', n.text, n.text, isQuote_doubleQuote, spells_of_isIdentChar n.isIdentChar_of_mem⟩
  | .quoted l => .quoted (requoteLiteral l)

theorem isPlainChar_of_isNumberChar {c : Char} (h : isNumberChar c = true) : IsPlainChar c := by
  refine ⟨isQuote_eq_false h (by decide), ?_, ?_⟩
  · cases hb : isBlank c with
    | false => rfl
    | true =>
      have hi := isIdentChar_of_isBlank hb
      simp only [isNumberChar, Bool.or_eq_true, beq_iff_eq] at h
      rcases h with ((((h | rfl) | rfl) | rfl) | rfl) | rfl
      · simp [Text.isIdentChar, Char.isAlphanum, h] at hi
      all_goals revert hb; decide
  · rintro rfl
    revert h
    decide

/-- A leaf that is no call. -/
def Leaf.NoCall : Leaf → Prop
  | .call _ => False
  | .null | .bool _ | .number _ | .string _ => True

theorem isKeyPlace_of_endsKey {rest : List Char} (h : EndsKey rest) {last : Option Char}
    (hl : last = some '\x7b' ∨ last = some ',') : isKeyPlace last rest = true := by
  have hs : skipBlank rest = Json.skipSpace rest := by
    refine skipBlank_of_skipSpace fun c hc => ?_
    rw [h] at hc
    obtain rfl : ':' = c := by simpa using hc
    decide
  rw [isKeyPlace, hs, h]
  rcases hl with rfl | rfl <;> rfl

theorem noIdent_of_endsKey {rest : List Char} (h : EndsKey rest) :
    ∀ c ∈ rest.head?, isIdentChar c = false := by
  refine noIdent_of_skipSpace fun c hc => ?_
  rw [h] at hc
  obtain rfl : ':' = c := by simpa using hc
  decide

theorem not_isIdentStart_of_isBlank {c : Char} (h : isBlank c = true) : isIdentStart c = false := by
  cases hi : isIdentStart c with
  | false => rfl
  | true =>
    have hc := isIdentChar_of_isIdentStart hi
    rw [isIdentChar_of_isBlank h] at hc
    cases hc

/-- Putting keys and strings into double quotes is a pass. -/
def quotePass : Pass Leaf.NoCall (fun _ => True) (fun a => .leaf (requoteLeaf a)) requoteKey where
  State := Option Char
  run := quoteKeysFrom
  Ready _ := True
  KeyReady s := s = some '\x7b' ∨ s = some ','
  run_space s c rest h := by
    have hb := isBlank_of_isSpace h
    refine ⟨s, ?_, id, id⟩
    rw [quoteKeysFrom_cons (isQuote_of_isBlank hb) (not_isIdentStart_of_isBlank hb), if_pos hb]
  run_mark s c rest h := by
    have hc : isQuote c = false ∧ isIdentStart c = false ∧ isBlank c = false :=
      h.elim (by decide)
    refine ⟨some c, ?_, trivial, ?_⟩
    · rw [quoteKeysFrom_cons hc.1 hc.2.1, hc.2.2]
      rfl
    · rintro (rfl | rfl)
      · exact .inl rfl
      · exact .inr rfl
  run_leaf a h s rest _ hr := by
    cases a with
    | null => exact quoteKeysFrom_plain (List.all_iff_forall_prop.1 (by decide)) hr s
    | bool b => cases b <;> exact quoteKeysFrom_plain (List.all_iff_forall_prop.1 (by decide)) hr s
    | number n =>
      exact quoteKeysFrom_plain
        (fun c hc => isPlainChar_of_isNumberChar (n.isNumber.chars c hc)) hr s
    | string l => exact ⟨some '"', quoteKeysFrom_text l s rest⟩
    | call c => exact h.elim
  run_key k _ s rest hs hr := by
    cases k with
    | quoted l => exact ⟨some '"', quoteKeysFrom_text l s rest⟩
    | bare n =>
      refine ⟨n.text.getLast?, ?_⟩
      have hq := quoteKeysFrom_ident n.head_start n.tail_char (noIdent_of_endsKey hr) s
      rw [isKeyPlace_of_endsKey hr hs, if_pos rfl] at hq
      exact hq

end ShellQuery.Spelling
