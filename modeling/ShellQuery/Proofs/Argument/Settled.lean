import ShellQuery.Proofs.Argument.Dates
import ShellQuery.Proofs.Argument.Keys
import ShellQuery.Proofs.Json.Grammar
import ShellQuery.Proofs.Text.Quote

/-!
# Texts with keys and strings in double quotes

`quoteKeys` is a projection: what it gives is settled, and a settled text stays as it is.
`Settled` says from left to right what such a text looks like.  Every literal in it has
double quotes, and the last one may be left open.  No identifier in it stands where a key
does.  The text of JSON values is one of these.
-/

namespace ShellQuery.Argument

open ShellQuery.Text
open ShellQuery.Spelling (quoteKeysFrom_nil quoteKeysFrom_literal quoteKeysFrom_ident
  quoteKeysFrom_cons requote_escape)

/-! ## Settled texts -/

/-- A text in which every literal has double quotes and no identifier is a key.  `last` is
the last character in front of the text that is not blank. -/
inductive Settled : Option Char → List Char → Prop where
  /-- No text. -/
  | nil {last : Option Char} : Settled last []
  /-- A character that starts neither a literal nor an identifier. -/
  | char {last : Option Char} {c : Char} {text : List Char} : isQuote c = false →
      isIdentStart c = false → Settled (if isBlank c then last else some c) text →
      Settled last (c :: text)
  /-- An identifier that is no key. -/
  | word {last : Option Char} {c : Char} {tail text : List Char} : isIdentStart c = true →
      (∀ d ∈ tail, isIdentChar d = true) → (∀ d ∈ text.head?, isIdentChar d = false) →
      isKeyPlace last text = false → Settled (c :: tail).getLast? text →
      Settled last (c :: (tail ++ text))
  /-- A literal in double quotes. -/
  | literal {last : Option Char} {body text : List Char} : IsLiteralBody '"' body →
      Settled (some '"') text → Settled last ('"' :: (body ++ text))
  /-- A literal in double quotes that is left open. -/
  | opened {last : Option Char} {text : List Char} :
      (∀ body after, IsLiteralBody '"' body → text ≠ body ++ after) → Settled last ('"' :: text)

theorem splitLiteral_of_open {q : Char} (hq : q ≠ '\\') {text : List Char}
    (h : ∀ body after, IsLiteralBody q body → text ≠ body ++ after) :
    splitLiteral q text = (text, []) := by
  rcases splitLiteral_cases hq text with hb | ⟨hs, -⟩
  · exact absurd (splitLiteral_append q text).symm (h _ _ hb)
  · exact hs

/-- A settled text stays as it is. -/
theorem Settled.quoteKeysFrom_eq {last : Option Char} {text : List Char} (h : Settled last text) :
    quoteKeysFrom last text = text := by
  induction h with
  | nil => exact quoteKeysFrom_nil _
  | char hq hi _ ih => rw [quoteKeysFrom_cons hq hi, ih]
  | word hc ht hr hk _ ih =>
    rw [quoteKeysFrom_ident hc ht hr, hk, ih]
    rfl
  | literal hb _ ih =>
    rw [quoteKeysFrom_literal (by decide) hb, ih, doubleQuoted, if_pos rfl, List.cons_append]
  | opened hopen =>
    rw [quoteKeysFrom, if_pos (by decide), splitLiteral_of_open (by decide) hopen,
      quoteKeysFrom_nil, doubleQuoted, if_pos rfl, List.append_nil]

/-- A key may follow the character, with blanks between. -/
def startsKey (last : Option Char) : Bool := last == some '\x7b' || last == some ','

theorem isKeyPlace_eq (last : Option Char) (text : List Char) :
    isKeyPlace last text = (startsKey last && (skipBlank text).head? == some ':') := rfl

/-- What stands in front of a settled text counts only where a key may follow it. -/
theorem Settled.congr {last last' : Option Char} {text : List Char} (h : Settled last text)
    (hl : startsKey last' = startsKey last) : Settled last' text := by
  induction h generalizing last' with
  | nil => exact .nil
  | @char _ c _ hq hi _ ih =>
    refine .char hq hi (ih ?_)
    split
    · exact hl
    · rfl
  | word hc ht hr hk hs ih =>
    refine .word hc ht hr ?_ hs
    rw [isKeyPlace_eq, hl, ← isKeyPlace_eq, hk]
  | literal hb hs _ => exact .literal hb hs
  | opened hopen => exact .opened hopen

/-! ## What key quoting gives -/

/-- The body of a literal in other quotes closes in double quotes. -/
theorem isLiteralBody_requote {q : Char} (hq : q ≠ '"' ∧ q ≠ '\\') (body : List Char) :
    IsLiteralBody '"' (requote q body ++ ['"']) := by
  fun_induction requote q body with
  | case1 => exact .close '"'
  | case2 => exact .escape (.close '"')
  | case3 rest ih => exact .char hq.1 hq.2 ih
  | case4 c rest _ ih => exact .escape ih
  | case5 rest ih => exact .escape ih
  | case6 rest ih => exact .escape ih
  | case7 c rest h1 h2 h3 h4 ih =>
    refine .char (fun hc => h3 hc) ?_ ih
    rintro rfl
    cases rest with
    | nil => exact h1 rfl rfl
    | cons d rest => exact h2 d rest rfl rfl

/-- A literal as it is written in double quotes, if it is not left open. -/
theorem exists_doubleQuoted_eq {q : Char} (hq : isQuote q = true) {body : List Char}
    (h : q = '"' → IsLiteralBody '"' body) :
    ∃ body', doubleQuoted q body = '"' :: body' ∧ IsLiteralBody '"' body' := by
  by_cases hd : q = '"'
  · exact ⟨body, by rw [doubleQuoted, if_pos hd], h hd⟩
  · exact ⟨_, by rw [doubleQuoted, if_neg hd, List.cons_append],
      isLiteralBody_requote ⟨hd, ne_backslash_of_isQuote hq⟩ _⟩

theorem head?_doubleQuoted (q : Char) (body : List Char) :
    (doubleQuoted q body).head? = some '"' := by
  unfold doubleQuoted
  split
  · rfl
  · rfl

/-- The first character stays, or a quote stands there for a quote or an identifier. -/
theorem head?_quoteKeysFrom_cons (last : Option Char) (c : Char) (rest : List Char) :
    ∃ d, (quoteKeysFrom last (c :: rest)).head? = some d
      ∧ (d = c ∨ d = '"' ∧ (isQuote c = true ∨ isIdentStart c = true)) := by
  by_cases hq : isQuote c = true
  · refine ⟨'"', ?_, .inr ⟨rfl, .inl hq⟩⟩
    rw [quoteKeysFrom, if_pos hq, List.head?_append, head?_doubleQuoted]
    rfl
  · by_cases hi : isIdentStart c = true
    · rw [quoteKeysFrom, if_neg hq, if_pos hi]
      cases hk : isKeyPlace last (rest.dropWhile isIdentChar) with
      | true => exact ⟨'"', by simp [hk], .inr ⟨rfl, .inr hi⟩⟩
      | false => exact ⟨c, by simp [hk], .inl rfl⟩
    · rw [quoteKeysFrom_cons (by simpa using hq) (by simpa using hi)]
      exact ⟨c, rfl, .inl rfl⟩

/-- What ends an identifier ends it afterwards. -/
theorem noIdent_quoteKeysFrom {last : Option Char} {text : List Char}
    (h : ∀ d ∈ text.head?, isIdentChar d = false) :
    ∀ d ∈ (quoteKeysFrom last text).head?, isIdentChar d = false := by
  cases text with
  | nil => simp [quoteKeysFrom_nil]
  | cons c rest =>
    obtain ⟨d, heq, hd⟩ := head?_quoteKeysFrom_cons last c rest
    rw [heq]
    rintro e ⟨⟩
    rcases hd with rfl | ⟨rfl, -⟩
    · exact h d rfl
    · decide

/-- A colon follows just where one followed before. -/
theorem head?_skipBlank_quoteKeysFrom (last : Option Char) (text : List Char) :
    ((skipBlank (quoteKeysFrom last text)).head? == some ':')
      = ((skipBlank text).head? == some ':') := by
  induction text generalizing last with
  | nil => rw [quoteKeysFrom_nil]
  | cons c rest ih =>
    cases hb : isBlank c with
    | true =>
      rw [quoteKeysFrom_cons (isQuote_of_isBlank hb) (Spelling.not_isIdentStart_of_isBlank hb)]
      simpa [skipBlank, hb] using ih last
    | false =>
      obtain ⟨d, heq, hd⟩ := head?_quoteKeysFrom_cons last c rest
      obtain ⟨more, heq⟩ := List.head?_eq_some_iff.1 heq
      rw [heq, skipBlank_cons hb]
      rcases hd with rfl | ⟨rfl, hc⟩
      · rw [skipBlank_cons hb]
        rfl
      · have hcolon : c ≠ ':' := by
          rintro rfl
          revert hc
          decide
        rw [skipBlank_cons (by decide)]
        simp [hcolon]

theorem startsKey_of_isIdentChar {ident : List Char} (hne : ident ≠ [])
    (h : ∀ c ∈ ident, isIdentChar c = true) : startsKey ident.getLast? = false := by
  rw [List.getLast?_eq_some_getLast hne]
  have hc := h _ (List.getLast_mem hne)
  generalize ident.getLast hne = c at hc
  have hbrace : c ≠ '\x7b' := by
    rintro rfl
    revert hc
    decide
  have hcomma : c ≠ ',' := by
    rintro rfl
    revert hc
    decide
  simp [startsKey, hbrace, hcomma]

/-- An identifier and what key quoting gives behind it. -/
theorem settled_ident {last : Option Char} {c : Char} {tail after : List Char}
    (hc : isIdentStart c = true) (ht : ∀ d ∈ tail, isIdentChar d = true)
    (ha : ∀ d ∈ after.head?, isIdentChar d = false)
    (h : Settled (c :: tail).getLast? (quoteKeysFrom (c :: tail).getLast? after)) :
    Settled last ((if isKeyPlace last after then '"' :: (c :: tail) ++ ['"'] else c :: tail)
      ++ quoteKeysFrom (c :: tail).getLast? after) := by
  have hident : ∀ d ∈ c :: tail, isIdentChar d = true :=
    List.forall_mem_cons.2 ⟨isIdentChar_of_isIdentStart hc, ht⟩
  cases hk : isKeyPlace last after with
  | true =>
    have hb : IsLiteralBody '"' ((c :: tail) ++ ['"']) := by
      refine isLiteralBody_append (fun d hd => ?_) (.close '"')
      have hd := hident d hd
      constructor
      · rintro rfl
        exact absurd hd (by decide)
      · rintro rfl
        exact absurd hd (by decide)
    exact .literal hb (h.congr (startsKey_of_isIdentChar (by simp) hident).symm)
  | false =>
    refine .word hc ht (noIdent_quoteKeysFrom ha) ?_ h
    rw [isKeyPlace_eq, head?_skipBlank_quoteKeysFrom, ← isKeyPlace_eq, hk]

/-- What key quoting gives is settled. -/
theorem settled_quoteKeysFrom (last : Option Char) (text : List Char) :
    Settled last (quoteKeysFrom last text) := by
  fun_induction quoteKeysFrom last text with
  | case1 => exact .nil
  | case2 last c rest hq ih =>
    by_cases hclosed : c = '"' → IsLiteralBody '"' (splitLiteral c rest).1
    · obtain ⟨body, heq, hb⟩ := exists_doubleQuoted_eq hq hclosed
      rw [heq, List.cons_append]
      exact .literal hb ih
    · -- a literal in double quotes that is left open is the rest of the text
      obtain ⟨rfl, hb⟩ := Classical.not_imp.1 hclosed
      rcases splitLiteral_cases (q := '"') (by decide) rest with hb' | ⟨hs, hopen⟩
      · exact absurd hb' hb
      · rw [hs, quoteKeysFrom_nil, doubleQuoted, if_pos rfl, List.append_nil]
        exact .opened hopen
  | case3 last c rest hq hi ident after ih =>
    have ha : ∀ d ∈ after.head?, isIdentChar d = false := fun d hd => by
      have h := List.head?_dropWhile_not isIdentChar rest
      rwa [show (rest.dropWhile isIdentChar).head? = some d from hd] at h
    exact settled_ident hi (fun d hd => List.all_eq_true.1 List.all_takeWhile d hd) ha ih
  | case4 last c rest hq hi ih => exact .char (by simpa using hq) (by simpa using hi) ih

/-! ## Quotes of other kinds -/

/-- A character that a text does not hold is behind the text. -/
theorem exists_of_append_eq {front text before after : List Char} {c : Char} (hc : c ∉ front)
    (h : front ++ text = before ++ c :: after) :
    ∃ mid, before = front ++ mid ∧ text = mid ++ c :: after := by
  induction front generalizing before with
  | nil => exact ⟨before, rfl, h⟩
  | cons d front ih =>
    rw [List.mem_cons, not_or] at hc
    cases before with
    | nil => exact absurd (List.cons.inj h).1.symm hc.1
    | cons e before =>
      obtain ⟨rfl, htail⟩ := List.cons.inj h
      obtain ⟨mid, rfl, ht⟩ := ih hc.2 htail
      exact ⟨mid, rfl, ht⟩

/-- In a settled text only literals in double quotes hold other quotes. -/
theorem Settled.exists_inside {last : Option Char} {text : List Char} (h : Settled last text)
    {front rest : List Char} {c : Char} (ht : text = front ++ c :: rest)
    (hc : c = '\'' ∨ c = '\x60') :
    ∃ escaped, QuoteState.outside.run front = .inside '"' escaped := by
  have hquote : isQuote c = true := by rcases hc with rfl | rfl <;> decide
  have hdouble : c ≠ '"' := by rcases hc with rfl | rfl <;> decide
  induction h generalizing front with
  | nil => simp at ht
  | @char _ d text hd _ _ ih =>
    have hne : c ∉ [d] := by
      rintro hm
      rw [List.mem_singleton.1 hm, hd] at hquote
      cases hquote
    obtain ⟨mid, rfl, htext⟩ := exists_of_append_eq hne ht
    rw [QuoteState.run_append_of_noQuote (by simpa using hd)]
    exact ih htext
  | @word _ d tail text hd htail _ _ _ ih =>
    have hident : ∀ e ∈ d :: tail, isQuote e = false :=
      List.forall_mem_cons.2 ⟨isQuote_eq_false hd (by decide),
        fun e he => isQuote_eq_false (htail e he) (by decide)⟩
    have hne : c ∉ d :: tail := by
      intro hm
      rw [hident c hm] at hquote
      cases hquote
    obtain ⟨mid, rfl, htext⟩ := exists_of_append_eq hne ht
    rw [QuoteState.run_append_of_noQuote hident]
    exact ih htext
  | @literal _ body text hb _ ih =>
    obtain ⟨mid, rfl, htext⟩ := @exists_of_append_eq ['"'] _ _ _ _ (by simpa using hdouble) ht
    rcases QuoteState.exists_inside_or_closed (q := '"') mid with hin | ⟨body', after, hb', rfl⟩
    · exact hin
    · -- the literal is closed in front of the quote, so the quote is in the text behind it
      rw [List.append_assoc] at htext
      obtain ⟨rfl, rfl⟩ := isLiteralBody_append_inj hb hb' htext
      obtain ⟨escaped, hrun⟩ := ih rfl
      refine ⟨escaped, ?_⟩
      rw [List.singleton_append, QuoteState.run_cons, QuoteState.run_append]
      exact (congrArg (QuoteState.run · after)
        (QuoteState.run_isLiteralBody (by decide) hb')).trans hrun
  | @opened _ text hopen =>
    obtain ⟨mid, rfl, htext⟩ := @exists_of_append_eq ['"'] _ _ _ _ (by simpa using hdouble) ht
    rcases QuoteState.exists_inside_or_closed (q := '"') mid with hin | ⟨body, after, hb, rfl⟩
    · exact hin
    · rw [List.append_assoc] at htext
      exact absurd htext (hopen body _ hb)

/-! ## JSON -/

open ShellQuery.Json (Derives Part IsSpaces IsStringBody IsNumeral)
open ShellQuery.Spelling (EndsValue IsPlainChar quoteKeysFrom_plain)

/-- What a text adds in front of the end of a value stays. -/
def Copied (text : List Char) : Prop :=
  ∀ last rest, EndsValue rest →
    ∃ last', quoteKeysFrom last (text ++ rest) = text ++ quoteKeysFrom last' rest

theorem quoteKeysFrom_spaces {space : List Char} (h : IsSpaces space) (last : Option Char)
    (rest : List Char) :
    quoteKeysFrom last (space ++ rest) = space ++ quoteKeysFrom last rest := by
  induction space with
  | nil => rfl
  | cons c space ih =>
    rw [IsSpaces, List.forall_mem_cons] at h
    have hb := Spelling.isBlank_of_isSpace h.1
    rw [List.cons_append, quoteKeysFrom_cons (isQuote_of_isBlank hb)
      (Spelling.not_isIdentStart_of_isBlank hb), if_pos hb, ih h.2, List.cons_append]

theorem quoteKeysFrom_mark {c : Char} (h : Spelling.IsMark c) (last : Option Char)
    (rest : List Char) : quoteKeysFrom last (c :: rest) = c :: quoteKeysFrom (some c) rest := by
  have hc : isQuote c = false ∧ isIdentStart c = false ∧ isBlank c = false :=
    h.elim (by decide)
  rw [quoteKeysFrom_cons hc.1 hc.2.1, hc.2.2]
  rfl

/-- The body of a string is the body of a literal. -/
theorem isLiteralBody_of_isStringBody {body : List Char} (h : IsStringBody body) :
    IsLiteralBody '"' body := by
  induction h with
  | close => exact .close '"'
  | plain hq hb _ _ ih => exact .char hq hb ih
  | escape _ _ ih => exact .escape ih
  | unit _ hdigits _ ih =>
    refine .escape (isLiteralBody_append (fun c hc => ?_) ih)
    obtain ⟨hq, hb⟩ := Json.plain_of_hexDigit? (hdigits c hc)
    refine ⟨?_, hb⟩
    rintro rfl
    exact absurd hq (by decide)

theorem quoteKeysFrom_string {body : List Char} (h : IsStringBody body) (last : Option Char)
    (rest : List Char) :
    quoteKeysFrom last ('"' :: (body ++ rest))
      = '"' :: (body ++ quoteKeysFrom (some '"') rest) := by
  rw [quoteKeysFrom_literal (by decide) (isLiteralBody_of_isStringBody h), doubleQuoted,
    if_pos rfl, List.cons_append]

theorem endsValue_spaces {space rest : List Char} (h : IsSpaces space) (hr : EndsValue rest) :
    EndsValue (space ++ rest) :=
  Spelling.endsValue_space ⟨space, h⟩ hr

/-- Every part of JSON stays. -/
theorem copied_of_derives {part : Part} {text : List Char} (h : Derives part text) :
    Copied text := by
  induction h with
  | word hw =>
    intro last rest hr
    refine quoteKeysFrom_plain ?_ hr last
    simp only [List.mem_cons, List.not_mem_nil, or_false] at hw
    rcases hw with rfl | rfl | rfl <;> exact List.all_iff_forall_prop.1 (by decide)
  | number hn =>
    intro last rest hr
    exact quoteKeysFrom_plain (fun c hc => Spelling.isPlainChar_of_isNumberChar (hn.chars c hc)) hr
      last
  | string hb =>
    intro last rest _
    exact ⟨_, quoteKeysFrom_string hb last rest⟩
  | emptyArray hs =>
    intro last rest _
    refine ⟨some ']', ?_⟩
    simp only [List.cons_append, List.append_assoc, List.nil_append]
    rw [quoteKeysFrom_mark (by simp [Spelling.IsMark]), quoteKeysFrom_spaces hs,
      quoteKeysFrom_mark (by simp [Spelling.IsMark])]
  | array _ ih =>
    intro last rest _
    obtain ⟨last', h'⟩ := ih (some '[') (']' :: rest) (Spelling.endsValue_cons rest (by simp))
    refine ⟨some ']', ?_⟩
    simp only [List.cons_append, List.append_assoc, List.nil_append]
    rw [quoteKeysFrom_mark (by simp [Spelling.IsMark]), h',
      quoteKeysFrom_mark (by simp [Spelling.IsMark])]
  | emptyObject hs =>
    intro last rest _
    refine ⟨some '\x7d', ?_⟩
    simp only [List.cons_append, List.append_assoc, List.nil_append]
    rw [quoteKeysFrom_mark (by simp [Spelling.IsMark]), quoteKeysFrom_spaces hs,
      quoteKeysFrom_mark (by simp [Spelling.IsMark])]
  | object _ ih =>
    intro last rest _
    obtain ⟨last', h'⟩ :=
      ih (some '\x7b') ('\x7d' :: rest) (Spelling.endsValue_cons rest (by simp))
    refine ⟨some '\x7d', ?_⟩
    simp only [List.cons_append, List.append_assoc, List.nil_append]
    rw [quoteKeysFrom_mark (by simp [Spelling.IsMark]), h',
      quoteKeysFrom_mark (by simp [Spelling.IsMark])]
  | text hb _ ha ih =>
    intro last rest hr
    obtain ⟨last', h'⟩ := ih last (_ ++ rest) (endsValue_spaces ha hr)
    refine ⟨last', ?_⟩
    simp only [List.append_assoc]
    rw [quoteKeysFrom_spaces hb, h', quoteKeysFrom_spaces ha]
  | lastText _ ih => exact ih
  | moreTexts _ _ ih ihs =>
    intro last rest hr
    obtain ⟨last₁, h₁⟩ := ih last (',' :: (_ ++ rest)) (Spelling.endsValue_cons _ (by simp))
    obtain ⟨last₂, h₂⟩ := ihs (some ',') rest hr
    refine ⟨last₂, ?_⟩
    simp only [List.append_assoc, List.cons_append]
    rw [h₁, quoteKeysFrom_mark (by simp [Spelling.IsMark]), h₂]
  | member hb hk ha _ ih =>
    intro last rest hr
    obtain ⟨last', h'⟩ := ih (some ':') rest hr
    refine ⟨last', ?_⟩
    simp only [List.append_assoc, List.cons_append]
    rw [quoteKeysFrom_spaces hb, quoteKeysFrom_string hk, quoteKeysFrom_spaces ha,
      quoteKeysFrom_mark (by simp [Spelling.IsMark]), h']
  | lastMember _ ih => exact ih
  | moreMembers _ _ ih ihs =>
    intro last rest hr
    obtain ⟨last₁, h₁⟩ := ih last (',' :: (_ ++ rest)) (Spelling.endsValue_cons _ (by simp))
    obtain ⟨last₂, h₂⟩ := ihs (some ',') rest hr
    refine ⟨last₂, ?_⟩
    simp only [List.append_assoc, List.cons_append]
    rw [h₁, quoteKeysFrom_mark (by simp [Spelling.IsMark]), h₂]

/-- Key quoting is a projection.  Outside of literals in double quotes it leaves no other
quote, and JSON texts with commas between them stay as they are. -/
theorem quoteKeys_projection (text : List Char) :
    quoteKeys (quoteKeys text) = quoteKeys text
      ∧ (∀ front c rest, quoteKeys text = front ++ c :: rest → c = '\'' ∨ c = '\x60' →
        ∃ escaped, QuoteState.outside.run front = .inside '"' escaped)
      ∧ (Derives .texts text → quoteKeys text = text) := by
  have hsettled : Settled none (quoteKeys text) := settled_quoteKeysFrom none text
  refine ⟨hsettled.quoteKeysFrom_eq, fun front c rest ht hc => hsettled.exists_inside ht hc,
    fun hjson => ?_⟩
  obtain ⟨last, h⟩ := copied_of_derives hjson none [] Spelling.endsValue_nil
  rwa [List.append_nil, quoteKeysFrom_nil, List.append_nil] at h

theorem quoteKeys_projection_json :
    Derives .texts "\"it's\", -1.5e3".toList
      ∧ quoteKeys "\"it's\", -1.5e3".toList = "\"it's\", -1.5e3".toList
      ∧ ∃ escaped, QuoteState.outside.run "\"it".toList = .inside '"' escaped := by
  have hbody : IsStringBody "it's\"".toList :=
    .plain (by decide) (by decide) (by decide) <| .plain (by decide) (by decide) (by decide) <|
      .plain (by decide) (by decide) (by decide) <| .plain (by decide) (by decide) (by decide)
        .close
  have hstring : Derives .text "\"it's\"".toList :=
    @Derives.text [] _ [] nofun (.string hbody) nofun
  have hnumber : IsNumeral "-1.5e3".toList :=
    @IsNumeral.parts ['-'] ['1'] ['.', '5'] ['e', '3'] (by decide)
      (.digits (by decide) (by decide) nofun)
      (.some ⟨by decide, List.forall_mem_singleton.2 rfl⟩)
      (@Json.IsExponent.some 'e' [] ['3'] (by decide) (by decide)
        ⟨by decide, List.forall_mem_singleton.2 rfl⟩)
  have hsecond : Derives .text " -1.5e3".toList :=
    @Derives.text [' '] _ [] (List.forall_mem_singleton.2 rfl) (.number hnumber) nofun
  have hjson : Derives .texts "\"it's\", -1.5e3".toList := .moreTexts hstring (.lastText hsecond)
  have hself := (quoteKeys_projection _).2.2 hjson
  exact ⟨hjson, hself, (quoteKeys_projection _).2.1 _ '\'' "s\", -1.5e3".toList hself (.inl rfl)⟩

end ShellQuery.Argument
