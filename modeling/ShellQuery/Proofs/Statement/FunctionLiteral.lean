import ShellQuery.Proofs.Statement.RoundTrip
import ShellQuery.Proofs.Statement.Suffix
import ShellQuery.Statement.FunctionLiteral

/-!
# The two readings of a function literal

A text that is one `function` literal from its keyword to its last brace is read as a whole.
The parameter list then ends at the first closing parenthesis, and the body at the last brace,
whatever stands between.  The other reading goes by matching brackets.

The two agree exactly if the brackets of the first reading match: the parameter list and the
body are groups, and the parameter is an identifier (`whole?_agrees_iff`).  In every other case
the second reading finds a shorter body, or another parameter, or nothing.  That a body is
shorter is seen by its braces, which trimming does not touch (`count_trim`).
-/

namespace ShellQuery

open ShellQuery.Text

namespace FunctionLiteral

/-! ## Texts and their braces -/

/-- A character without a property is not in a text whose characters all have it. -/
theorem notMem_of_forall {p : Char → Bool} {c : Char} (hc : p c = false) {text : List Char}
    (h : ∀ d ∈ text, p d = true) : c ∉ text := by
  intro hmem
  rw [h c hmem] at hc
  cases hc

theorem count_of_isBlank {c : Char} (hc : isBlank c = false) {blanks : List Char}
    (h : ∀ d ∈ blanks, isBlank d = true) : blanks.count c = 0 :=
  List.count_eq_zero.2 (notMem_of_forall hc h)

theorem count_trim {c : Char} (hc : isBlank c = false) (text : List Char) :
    (trim text).count c = text.count c := by
  obtain ⟨before, after, ht, hbefore, hafter⟩ := ScanState.exists_eq_trim text
  calc (trim text).count c
      = (before ++ trim text ++ after).count c := by
        rw [List.count_append, List.count_append, count_of_isBlank hc hbefore,
          count_of_isBlank hc hafter, Nat.zero_add, Nat.add_zero]
    _ = text.count c := by rw [← ht]

theorem count_eq_of_trim_eq {c : Char} (hc : isBlank c = false) {a b : List Char}
    (h : trim a = trim b) : a.count c = b.count c := by
  rw [← count_trim hc a, h, count_trim hc]

theorem ofChars_inj {param param' body body' : List Char} :
    ofChars param body = ofChars param' body' ↔ param = param' ∧ trim body = trim body' := by
  rw [ofChars, ofChars, mk.injEq, String.ofList_inj, String.ofList_inj]

/-- A text that starts with a character which a front does not have is behind that front. -/
theorem suffix_of_notMem {c : Char} {front back rest : List Char}
    (h : c :: rest <:+ front ++ back) (hc : c ∉ front) : c :: rest <:+ back := by
  obtain hback | ⟨before, hback⟩ :=
    List.suffix_or_suffix_of_suffix h (List.suffix_append front back)
  · exact hback
  · cases before with
    | nil => exact ⟨[], hback.symm⟩
    | cons d before =>
      obtain ⟨rfl, -⟩ := List.cons.inj hback
      obtain ⟨more, hmore⟩ := h
      rw [← hback, ← List.append_assoc] at hmore
      refine absurd ?_ hc
      rw [← List.append_cancel_right hmore]
      simp

/-- Two cuts of a text at one character: the same, or the second cut is behind the first. -/
theorem cut_cases {c : Char} {front back front' back' : List Char} (hc : c ∉ front)
    (h : front' ++ c :: back' = front ++ c :: back) :
    (front' = front ∧ back' = back) ∨ c :: back' <:+ back := by
  have hsuffix : c :: back' <:+ c :: back :=
    suffix_of_notMem ⟨front', h⟩ hc
  obtain heq | hsuffix := List.suffix_cons_iff.1 hsuffix
  · obtain ⟨-, rfl⟩ := List.cons.inj heq
    exact .inl ⟨List.append_cancel_right h, rfl⟩
  · exact .inr hsuffix

theorem dropWhile_ne_append {c : Char} {front : List Char} (hc : c ∉ front) (rest : List Char) :
    (front ++ c :: rest).dropWhile (· ≠ c) = c :: rest := by
  rw [List.dropWhile_append_of_pos fun d hd => ?_]
  · simp
  · rw [decide_eq_true_eq]
    rintro rfl
    exact hc hd

/-- A text is cut in one way only at the first place of a character. -/
theorem cut_inj {c : Char} {front back front' back' : List Char} (hc : c ∉ front)
    (hc' : c ∉ front') (h : front ++ c :: back = front' ++ c :: back') :
    front = front' ∧ back = back' := by
  have hback : c :: back = c :: back' := by
    rw [← dropWhile_ne_append hc back, h, dropWhile_ne_append hc']
  rw [hback] at h
  exact ⟨List.append_cancel_right h, (List.cons.inj hback).2⟩

/-! ## Matching brackets -/

theorem readParens?_eq_some_iff {text items rest : List Char} :
    readGroup? '(' ')' text = some (items, rest)
      ↔ text = '(' :: items ++ ')' :: rest ∧ IsItems '(' ')' items :=
  readGroup?_eq_some_iff (by decide) (by decide) (by decide)

theorem readBraces?_eq_some_iff {text items rest : List Char} :
    readGroup? '\x7b' '\x7d' text = some (items, rest)
      ↔ text = '\x7b' :: items ++ '\x7d' :: rest ∧ IsItems '\x7b' '\x7d' items :=
  readGroup?_eq_some_iff (by decide) (by decide) (by decide)

/-- What the reading by brackets finds: two groups, the second one at the first brace behind
the first one. -/
theorem brackets?_eq_some_iff {text : List Char} {f : FunctionLiteral} :
    brackets? text = some f ↔ ∃ params rest body after,
      text.dropWhile (· ≠ '(') = '(' :: (params ++ ')' :: rest)
        ∧ IsItems '(' ')' params
        ∧ rest.dropWhile (· ≠ '\x7b') = '\x7b' :: (body ++ '\x7d' :: after)
        ∧ IsItems '\x7b' '\x7d' body
        ∧ f = ofChars (firstParam params) body := by
  constructor
  · intro h
    obtain ⟨⟨params, rest⟩, hparams, h⟩ := Option.bind_eq_some_iff.1 h
    obtain ⟨⟨body, after⟩, hbody, h⟩ := Option.bind_eq_some_iff.1 h
    cases h
    obtain ⟨htext, hp⟩ := readParens?_eq_some_iff.1 hparams
    obtain ⟨hrest, hb⟩ := readBraces?_eq_some_iff.1 hbody
    exact ⟨params, rest, body, after, htext, hp, hrest, hb, rfl⟩
  · rintro ⟨params, rest, body, after, htext, hp, hrest, hb, rfl⟩
    rw [brackets?, readParens?_eq_some_iff.2 ⟨htext, hp⟩]
    simp only [Option.bind_eq_bind, Option.bind_some, readBraces?_eq_some_iff.2 ⟨hrest, hb⟩]
    rfl

/-- The brace in front of a body is not counted in it. -/
theorem count_lt_of_suffix {body after back : List Char}
    (h : '\x7b' :: (body ++ '\x7d' :: after) <:+ back) : body.count '\x7b' < back.count '\x7b' := by
  have hle := h.sublist.count_le '\x7b'
  rw [List.count_cons_self, List.count_append] at hle
  omega

/-- The body that the reading by brackets finds is behind the first parenthesis. -/
theorem exists_body_of_brackets? {front back : List Char} {f : FunctionLiteral}
    (h : brackets? (front ++ back) = some f) (hfront : '(' ∉ front) :
    ∃ param body, f = ofChars param body ∧ body.count '\x7b' < back.count '\x7b' := by
  obtain ⟨params, rest, body, after, htext, -, hrest, -, rfl⟩ := brackets?_eq_some_iff.1 h
  have hopen : '(' :: (params ++ ')' :: rest) <:+ front ++ back := by
    rw [← htext]
    exact List.dropWhile_suffix _
  have hgroup : '\x7b' :: (body ++ '\x7d' :: after) <:+ rest := by
    rw [← hrest]
    exact List.dropWhile_suffix _
  have hrest : rest <:+ '(' :: (params ++ ')' :: rest) := ⟨'(' :: params ++ [')'], by simp⟩
  have hbehind : '\x7b' :: (body ++ '\x7d' :: after) <:+ back :=
    hgroup.trans (hrest.trans (suffix_of_notMem hopen hfront))
  exact ⟨_, body, rfl, count_lt_of_suffix hbehind⟩

/-- With the keyword in front, a text is read by its brackets, arrow or not. -/
theorem matched?_of_keyword {text : List Char} (h : "function".toList <+: text) :
    matched? text = brackets? text := by
  obtain ⟨rest, rfl⟩ := h
  have hword : (dropWord? "function".toList ("function".toList ++ rest)).isSome = true := by
    rw [dropWord?_eq_some.2 rfl]
    rfl
  rw [matched?]
  split
  next => rw [if_pos hword]
  next => rfl

/-! ## One whole literal -/

/-- The parts of a text that is one literal. -/
structure Parts (text : List Char) where
  /-- The keyword and a name, with the blanks behind them. -/
  head : List Char
  /-- The parameter list. -/
  params : List Char
  /-- What stands between the parameter list and the body. -/
  gap : List Char
  /-- The body. -/
  body : List Char
  text_eq : text = head ++ '(' :: (params ++ ')' :: (gap ++ '\x7b' :: (body ++ ['\x7d'])))
  keyword : "function".toList <+: head
  head_open : '(' ∉ head
  params_close : ')' ∉ params
  gap_blank : ∀ c ∈ gap, isBlank c = true

/-- There is only one way to take a literal apart. -/
instance {text : List Char} : Subsingleton (Parts text) where
  allEq p q := by
    obtain ⟨hhead, hparams⟩ := cut_inj p.head_open q.head_open (p.text_eq.symm.trans q.text_eq)
    obtain ⟨hparams, hgap⟩ := cut_inj p.params_close q.params_close hparams
    obtain ⟨hgap, hbody⟩ := cut_inj (notMem_of_forall (by decide) p.gap_blank)
      (notMem_of_forall (by decide) q.gap_blank) hgap
    have hbody := List.append_cancel_right hbody
    cases p
    cases q
    cases hhead
    cases hparams
    cases hgap
    cases hbody
    rfl

/-- A parameter list starts with a parameter, or with none. -/
inductive StartsWith : List Char → List Char → Prop where
  /-- A name between blanks, and then nothing or a comma. -/
  | named {before param after tail : List Char} : (∀ c ∈ before, isBlank c = true) →
      (∀ c ∈ param.head?, isIdentStart c = true) → (∀ c ∈ after, isBlank c = true) →
      (∀ c ∈ tail.head?, c = ',') → StartsWith (before ++ (param ++ (after ++ tail))) param

theorem readParam_eq {text param rest : List Char} (h : readParam text = (param, rest)) :
    text = param ++ rest ∧ (∀ c ∈ param.head?, isIdentStart c = true)
      ∧ ')' ∉ param := by
  unfold readParam at h
  split at h
  next c more =>
    split at h
    next hc =>
      cases h
      refine ⟨?_, ?_, ?_⟩
      · rw [List.cons_append, List.takeWhile_append_dropWhile]
      · rintro _ ⟨⟩
        exact hc
      · rw [List.mem_cons, not_or]
        refine ⟨?_, notMem_of_forall (by decide +kernel)
          (List.all_eq_true.1 List.all_takeWhile)⟩
        rintro rfl
        revert hc
        decide
    next =>
      cases h
      exact ⟨rfl, nofun, nofun⟩
  next =>
    cases h
    exact ⟨rfl, nofun, nofun⟩

theorem afterParams?_eq_some {text rest : List Char} (h : afterParams? text = some rest) :
    ∃ tail, text = tail ++ ')' :: rest ∧ (∀ c ∈ tail.head?, c = ',') ∧ ')' ∉ tail := by
  unfold afterParams? at h
  split at h
  next more =>
    have hclose := expectChar?_eq_some.1 h
    refine ⟨',' :: more.takeWhile (· ≠ ')'), ?_, ?_, ?_⟩
    · rw [← hclose, List.cons_append, List.takeWhile_append_dropWhile]
    · rintro _ ⟨⟩
      rfl
    · intro hmem
      obtain hcomma | hmem := List.mem_cons.1 hmem
      · cases hcomma
      · simpa using List.all_eq_true.1 List.all_takeWhile _ hmem
  next => exact ⟨[], expectChar?_eq_some.1 h, nofun, nofun⟩

/-- What stands in front of a character that is no blank. -/
theorem exists_gap {c : Char} {text rest : List Char}
    (h : expectChar? c (skipBlank text) = some rest) :
    ∃ gap, text = gap ++ c :: rest ∧ ∀ d ∈ gap, isBlank d = true := by
  obtain ⟨gap, htext, hgap⟩ := exists_eq_append_skipBlank text
  rw [expectChar?_eq_some.1 h] at htext
  exact ⟨gap, htext, hgap⟩

theorem exists_head {text behind rest : List Char}
    (hkeyword : dropWord? "function".toList text = some behind)
    (hopen : expectChar? '(' (skipBlank ((skipBlank behind).dropWhile isNameChar)) = some rest) :
    ∃ head, text = head ++ '(' :: rest ∧ "function".toList <+: head ∧ '(' ∉ head := by
  obtain ⟨before, hbehind, hbefore⟩ := exists_eq_append_skipBlank behind
  obtain ⟨after, hname, hafter⟩ := exists_gap hopen
  have hchars : ∀ c ∈ (skipBlank behind).takeWhile isNameChar, isNameChar c = true :=
    List.all_eq_true.1 List.all_takeWhile
  refine ⟨"function".toList ++ (before ++ ((skipBlank behind).takeWhile isNameChar ++ after)),
    ?_, List.prefix_append _ _, ?_⟩
  · calc text
        = "function".toList ++ behind := dropWord?_eq_some.1 hkeyword
      _ = "function".toList ++ (before ++ skipBlank behind) := by rw [← hbehind]
      _ = "function".toList ++ (before ++ ((skipBlank behind).takeWhile isNameChar
            ++ (skipBlank behind).dropWhile isNameChar)) := by rw [List.takeWhile_append_dropWhile]
      _ = _ := by rw [hname]; simp
  · simp only [List.mem_append, not_or]
    exact ⟨by decide, notMem_of_forall (by decide) hbefore,
      notMem_of_forall (by decide +kernel) hchars, notMem_of_forall (by decide) hafter⟩

theorem exists_params {text param behind rest : List Char}
    (hparam : readParam (skipBlank text) = (param, behind))
    (hclose : afterParams? (skipBlank behind) = some rest) :
    ∃ params, text = params ++ ')' :: rest ∧ StartsWith params param ∧ ')' ∉ params := by
  obtain ⟨before, htext, hbefore⟩ := exists_eq_append_skipBlank text
  obtain ⟨after, hbehind, hafter⟩ := exists_eq_append_skipBlank behind
  obtain ⟨hread, hstart, hparamClose⟩ := readParam_eq hparam
  obtain ⟨tail, htail, hcomma, htailClose⟩ := afterParams?_eq_some hclose
  refine ⟨before ++ (param ++ (after ++ tail)), ?_, .named hbefore hstart hafter hcomma, ?_⟩
  · calc text
        = before ++ (param ++ behind) := by rw [← hread, ← htext]
      _ = before ++ (param ++ (after ++ (tail ++ ')' :: rest))) := by rw [← htail, ← hbehind]
      _ = _ := by simp
  · simp only [List.mem_append, not_or]
    exact ⟨notMem_of_forall (by decide) hbefore, hparamClose,
      notMem_of_forall (by decide) hafter, htailClose⟩

/-- A text that is read as a whole has the parts of a literal. -/
theorem exists_parts_of_whole? {text : List Char} {f : FunctionLiteral}
    (h : whole? text = some f) :
    ∃ (p : Parts (trim text)) (param : List Char), f = ofChars param p.body
      ∧ StartsWith p.params param := by
  obtain ⟨r0, hkeyword, h⟩ := Option.bind_eq_some_iff.1 h
  obtain ⟨r2, hopen, h⟩ := Option.bind_eq_some_iff.1 h
  cases hparam : readParam (skipBlank r2) with
  | mk param r3 =>
    rw [hparam] at h
    obtain ⟨r4, hclose, h⟩ := Option.bind_eq_some_iff.1 h
    obtain ⟨rest, hbrace, h⟩ := Option.bind_eq_some_iff.1 h
    dsimp only at h
    split at h
    next hlast =>
      cases h
      obtain ⟨body, hbody⟩ := List.getLast?_eq_some_iff.1 hlast
      obtain ⟨head, htext, hhead, hheadOpen⟩ := exists_head hkeyword hopen
      obtain ⟨params, hr2, hstart, hparamsClose⟩ := exists_params hparam hclose
      obtain ⟨gap, hr4, hgap⟩ := exists_gap hbrace
      have htrim : trim text
          = head ++ '(' :: (params ++ ')' :: (gap ++ '\x7b' :: (body ++ ['\x7d']))) := by
        have hfront : skipBlank text
            = (head ++ '(' :: (params ++ ')' :: gap)) ++ '\x7b' :: rest := by
          rw [htext, hr2, hr4]
          simp
        rw [trim, hfront, trimEnd_append_cons (by decide), hbody]
        simp
      rw [hbody, List.dropLast_concat]
      exact ⟨⟨head, params, gap, body, htrim, hhead, hheadOpen, hparamsClose, hgap⟩, param, rfl,
        hstart⟩
    next => cases h

/-! ## Agreement -/

/-- The first identifier of a parameter list is its parameter if that has only the characters
of identifiers. -/
theorem firstParam_eq_iff {params param : List Char} (h : StartsWith params param) :
    firstParam params = param ↔ ∀ c ∈ param, isIdentChar c = true := by
  cases h with
  | @named before _ after tail hbefore hstart hafter htail =>
    rw [firstParam, skipBlank_append hbefore]
    cases param with
    | nil =>
      refine iff_of_true ?_ nofun
      rw [List.nil_append, skipBlank_append hafter]
      cases tail with
      | nil => rfl
      | cons c tail =>
        cases htail c rfl
        rfl
    | cons c more =>
      have hc := hstart c rfl
      have hblank := Spelling.isBlank_of_isIdentChar (isIdentChar_of_isIdentStart hc)
      rw [List.cons_append, skipBlank_cons hblank]
      constructor
      · intro hfirst
        rw [readIdent?, if_pos hc] at hfirst
        obtain ⟨-, hmore⟩ := List.cons.inj hfirst
        rw [List.forall_mem_cons, ← hmore]
        exact ⟨isIdentChar_of_isIdentStart hc, List.all_eq_true.1 List.all_takeWhile⟩
      · intro hident
        have hstop : ∀ d ∈ (after ++ tail).head?, isIdentChar d = false := by
          cases after with
          | nil =>
            intro d hd
            rw [htail d hd]
            decide
          | cons b after =>
            rintro _ ⟨⟩
            exact isIdentChar_of_isBlank (hafter b List.mem_cons_self)
        rw [← List.cons_append,
          readIdent?_append_eq hc (List.forall_mem_cons.1 hident).2 hstop]
        rfl

theorem Parts.dropWhile_text {text : List Char} (p : Parts text) :
    text.dropWhile (· ≠ '(')
      = '(' :: (p.params ++ ')' :: (p.gap ++ '\x7b' :: (p.body ++ ['\x7d']))) := by
  rw [← dropWhile_ne_append p.head_open, ← p.text_eq]

theorem Parts.dropWhile_gap {text : List Char} (p : Parts text) :
    (p.gap ++ '\x7b' :: (p.body ++ ['\x7d'])).dropWhile (· ≠ '\x7b')
      = '\x7b' :: (p.body ++ ['\x7d']) :=
  dropWhile_ne_append (notMem_of_forall (by decide) p.gap_blank) _

/-- A body that ends at an earlier brace is another one. -/
theorem eq_of_trim_eq {body body' after : List Char} (hbody : trim body' = trim body)
    (h : body' ++ '\x7d' :: after = body ++ ['\x7d']) : body' = body := by
  have hcount := congrArg (List.count '\x7d') h
  rw [List.count_append, List.count_cons_self, List.count_append, List.count_singleton_self,
    count_eq_of_trim_eq (by decide) hbody] at hcount
  obtain rfl | ⟨front, c, rfl⟩ := List.eq_nil_or_concat after
  · exact List.append_cancel_right h
  · -- the last character of a text that ends with a brace is counted
    have hc : c = '\x7d' := by
      rw [List.concat_eq_append, ← List.cons_append, ← List.append_assoc] at h
      exact (List.cons.inj (List.append_inj_right' h rfl)).1
    rw [hc, List.concat_eq_append, List.count_append, List.count_singleton_self] at hcount
    omega

/-- The reading by brackets finds the same literal exactly if the brackets match. -/
theorem Parts.brackets?_eq_iff {text param : List Char} (p : Parts text)
    (hstart : StartsWith p.params param) :
    brackets? text = some (ofChars param p.body)
      ↔ IsItems '(' ')' p.params ∧ IsItems '\x7b' '\x7d' p.body
        ∧ ∀ c ∈ param, isIdentChar c = true := by
  rw [brackets?_eq_some_iff, p.dropWhile_text]
  constructor
  · rintro ⟨params, rest, body, after, htext, hparams, hrest, hbody, hf⟩
    obtain ⟨hfirst, htrim⟩ := ofChars_inj.1 hf
    obtain ⟨hsame, hbehind⟩ | hlater := cut_cases p.params_close (List.cons.inj htext).2.symm
    · rw [hbehind, p.dropWhile_gap] at hrest
      have heq := eq_of_trim_eq htrim.symm (List.cons.inj hrest).2.symm
      rw [hsame] at hparams hfirst
      rw [heq] at hbody
      exact ⟨hparams, hbody, (firstParam_eq_iff hstart).1 hfirst.symm⟩
    · -- a parenthesis in the body closes the parameters, so the second body is a part of it
      have hinside : ')' :: rest <:+ p.body ++ ['\x7d'] := by
        have hbehind : ')' :: rest <:+ (p.gap ++ ['\x7b']) ++ (p.body ++ ['\x7d']) := by
          simpa using hlater
        refine suffix_of_notMem hbehind ?_
        rw [List.mem_append, not_or]
        exact ⟨notMem_of_forall (by decide) p.gap_blank, by decide⟩
      have hgroup : '\x7b' :: (body ++ '\x7d' :: after) <:+ rest := by
        rw [← hrest]
        exact List.dropWhile_suffix _
      have hlt := count_lt_of_suffix
        ((hgroup.trans (List.suffix_cons ')' rest)).trans hinside)
      have hcount := count_eq_of_trim_eq (c := '\x7b') (by decide) htrim
      rw [List.count_append, hcount] at hlt
      exact absurd hlt (by simp)
  · rintro ⟨hparams, hbody, hident⟩
    exact ⟨p.params, _, p.body, [], rfl, hparams, p.dropWhile_gap, hbody,
      ofChars_inj.2 ⟨((firstParam_eq_iff hstart).2 hident).symm, rfl⟩⟩

theorem isGroup_around_iff {opener closer : Char} {items : List Char} :
    IsGroup opener closer (opener :: items ++ [closer]) ↔ IsItems opener closer items :=
  ⟨isItems_of_isGroup, .around⟩

/-- A literal that is read as a whole is read so in any case.  The reading by brackets agrees
exactly if the parameter list and the body are groups and the parameter is an identifier.  The
body is what stands between its first brace and the brace that matches this one exactly if it
is a group. -/
theorem whole?_agrees_iff {text : List Char} {f : FunctionLiteral} (h : whole? text = some f) :
    read? text = some f ∧ ∃ p : Parts (trim text), f.body = String.ofList (trim p.body)
      ∧ (matched? (trim text) = some f ↔
        IsGroup '(' ')' ('(' :: p.params ++ [')'])
          ∧ IsGroup '\x7b' '\x7d' ('\x7b' :: p.body ++ ['\x7d'])
          ∧ ∀ c ∈ f.param.toList, isIdentChar c = true)
      ∧ ((∃ body after,
          readGroup? '\x7b' '\x7d' ('\x7b' :: p.body ++ ['\x7d']) = some (body, after)
            ∧ f.body = String.ofList (trim body)) ↔
        IsGroup '\x7b' '\x7d' ('\x7b' :: p.body ++ ['\x7d'])) := by
  obtain ⟨p, param, rfl, hstart⟩ := exists_parts_of_whole? h
  refine ⟨by rw [read?, h]; rfl, p, rfl, ?_, ?_⟩
  · have hkeyword : "function".toList <+: trim text := by
      rw [p.text_eq]
      exact p.keyword.trans (List.prefix_append _ _)
    have hparam : (ofChars param p.body).param.toList = param := String.toList_ofList
    rw [matched?_of_keyword hkeyword, p.brackets?_eq_iff hstart, isGroup_around_iff,
      isGroup_around_iff, hparam]
  · rw [isGroup_around_iff]
    constructor
    · rintro ⟨body, after, hread, hbody⟩
      obtain ⟨htext, hitems⟩ := readBraces?_eq_some_iff.1 hread
      have htrim : trim body = trim p.body := (String.ofList_inj.1 hbody).symm
      rwa [eq_of_trim_eq htrim (List.cons.inj htext).2.symm] at hitems
    · intro hitems
      exact ⟨p.body, [], readBraces?_eq_some_iff.2 ⟨rfl, hitems⟩, rfl⟩

/-- A literal with two parameters and a body in which a brace is quoted: both readings agree, so
its parts are groups. -/
theorem whole?_agrees_iff_two :
    whole? "function(a, b) \x7b f('\x7d') \x7d".toList = some ⟨"a", "f('\x7d')"⟩
      ∧ ∃ p : Parts (trim "function(a, b) \x7b f('\x7d') \x7d".toList),
        IsGroup '(' ')' ('(' :: p.params ++ [')'])
          ∧ IsGroup '\x7b' '\x7d' ('\x7b' :: p.body ++ ['\x7d']) := by
  have h : whole? "function(a, b) \x7b f('\x7d') \x7d".toList = some ⟨"a", "f('\x7d')"⟩ := by
    decide +kernel
  obtain ⟨-, p, -, hagrees, -⟩ := whole?_agrees_iff h
  have hgroups := hagrees.1 (by decide +kernel)
  exact ⟨h, p, hgroups.1, hgroups.2.1⟩

/-- Two literals after one another are read as one: the body of the first goes on to the last
brace of the second.  By brackets only the first is read. -/
theorem not_agrees_literals :
    ¬ ∀ text f, whole? text = some f → matched? (trim text) = some f := by
  intro h
  have hfirst : matched? (trim "function(a) \x7b x \x7d, function(b) \x7b y \x7d".toList)
      = some ⟨"a", "x"⟩ := by
    decide +kernel
  have hboth : whole? "function(a) \x7b x \x7d, function(b) \x7b y \x7d".toList
      = some ⟨"a", "x \x7d, function(b) \x7b y"⟩ := by
    decide +kernel
  rw [h _ _ hboth] at hfirst
  revert hfirst
  decide

end FunctionLiteral

end ShellQuery
