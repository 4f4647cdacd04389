import ShellQuery.Proofs.Argument.Pass
import ShellQuery.Proofs.Argument.Reading

/-!
# Constructor calls in the text of a value

The step that replaces constructor calls is a pass: it puts an object for each call of
its constructors and leaves everything else alone, provided that no string or key
holds the name of a constructor with an opening parenthesis.

A call that is found has a *needle* in it: the name of its constructor with the
parenthesis, and for a name that needs `new` the blank in front of it.  A needle in
the text of a string is a needle in the string (`Json.Spells.infix_chars`), and behind a
text without needles nothing that may follow a token completes one.
-/

namespace ShellQuery.Spelling

open ShellQuery.Text
open ShellQuery.Argument (Constructor readCall? replaceCalls afterNew? readParens? readQuoted?)

/-! ## Calls that are found -/

/-- What a call of a constructor has to hold. -/
def Needle (k : Constructor) (word : List Char) : Prop :=
  if k.needsNew then ∃ c, isBlank c = true ∧ word = c :: k.name.toList ++ ['(']
  else word = k.name.toList ++ ['(']

/-- The characters in front of the parenthesis of a call that are no blanks. -/
def callChars : List Char := "newObjectIdISODate(".toList

/-- What stands in a call up to its parenthesis. -/
structure CallStart (k : Constructor) (start : List Char) : Prop where
  chars : ∀ c ∈ start, isBlank c = true ∨ c ∈ callChars
  needle : ∃ before word, Needle k word ∧ start = before ++ word
  head : (∃ more, start = 'n' :: 'e' :: 'w' :: more)
    ∨ ∃ c more, start = c :: more ∧ (c = 'O' ∨ c = 'I')
  last : ∃ front, start = front ++ ['(']

/-- The first characters of calls. -/
theorem CallStart.exists_cons {k : Constructor} {start : List Char} (h : CallStart k start) :
    ∃ c more, start = c :: more ∧ c ∈ ['n', 'O', 'I'] := by
  rcases h.head with ⟨more, rfl⟩ | ⟨c, more, rfl, rfl | rfl⟩
  · exact ⟨'n', _, rfl, by decide⟩
  · exact ⟨'O', _, rfl, by decide⟩
  · exact ⟨'I', _, rfl, by decide⟩

theorem exists_of_afterNew? {text after : List Char} (h : afterNew? text = some after) :
    ∃ c blanks, text = "new".toList ++ c :: blanks ++ after ∧ isBlank c = true
      ∧ ∀ d ∈ blanks, isBlank d = true := by
  unfold afterNew? at h
  split at h
  · rename_i c rest heq
    simp only [Option.ite_none_right_eq_some, Option.some.injEq] at h
    obtain ⟨hc, rfl⟩ := h
    obtain ⟨blanks, hb, hblank⟩ := exists_eq_append_skipBlank rest
    refine ⟨c, blanks, ?_, hc, hblank⟩
    rw [dropWord?_eq_some.1 heq, List.append_assoc, List.cons_append, ← hb]
  · simp at h

theorem name_callChars (k : Constructor) : ∀ c ∈ k.name.toList ++ ['('], c ∈ callChars := by
  cases k <;> exact List.all_iff_forall_prop.1 (by decide)

theorem callStart_name {k : Constructor} (h : k.needsNew = false) :
    CallStart k (k.name.toList ++ ['(']) where
  chars := fun c hc => .inr (name_callChars k c hc)
  needle := ⟨[], k.name.toList ++ ['('], by rw [Needle, if_neg (by simp [h])], rfl⟩
  head := by
    cases k with
    | objectId => exact .inr ⟨'O', _, rfl, .inl rfl⟩
    | isoDate => exact .inr ⟨'I', _, rfl, .inr rfl⟩
    | date => cases h
  last := ⟨_, rfl⟩

theorem callStart_new (k : Constructor) {c : Char} {blanks : List Char} (hc : isBlank c = true)
    (hb : ∀ d ∈ blanks, isBlank d = true) :
    CallStart k ("new".toList ++ c :: blanks ++ (k.name.toList ++ ['('])) where
  chars := by
    have hnew : ∀ d ∈ "new".toList, d ∈ callChars := List.all_iff_forall_prop.1 (by decide)
    intro d hd
    rcases List.mem_append.1 hd with hd | hd
    · rcases List.mem_append.1 hd with hd | hd
      · exact .inr (hnew d hd)
      · rcases List.mem_cons.1 hd with rfl | hd
        · exact .inl hc
        · exact .inl (hb d hd)
    · exact .inr (name_callChars k d hd)
  needle := by
    by_cases hn : k.needsNew = true
    · -- the blank next to the name belongs to the needle
      obtain ⟨front, b, hlast⟩ : ∃ front b, c :: blanks = front ++ [b] :=
        ⟨_, _, (List.dropLast_concat_getLast (by simp)).symm⟩
      have hblank : isBlank b = true := by
        have hm : b ∈ c :: blanks := by simp [hlast]
        rcases List.mem_cons.1 hm with rfl | hm
        · exact hc
        · exact hb b hm
      refine ⟨"new".toList ++ front, b :: k.name.toList ++ ['('], ?_, ?_⟩
      · rw [Needle, if_pos hn]
        exact ⟨b, hblank, rfl⟩
      · rw [hlast]
        simp
    · exact ⟨"new".toList ++ c :: blanks, k.name.toList ++ ['('], by rw [Needle, if_neg hn], rfl⟩
  head := .inl ⟨_, rfl⟩
  last := ⟨_, (List.append_assoc ..).symm⟩

/-- A call starts with what a call has to hold. -/
theorem exists_start_of_readCall? {k : Constructor} {before : Option Char}
    {text object rest : List Char} (h : k.readCall? before text = some (object, rest)) :
    ∃ start more, CallStart k start ∧ text = start ++ more := by
  unfold Constructor.readCall? at h
  split at h
  · simp at h
  · obtain ⟨named, hn, h⟩ := Option.bind_eq_some_iff.1 h
    obtain ⟨parens, hp, h⟩ := Option.bind_eq_some_iff.1 h
    obtain ⟨⟨argument?, r⟩, hr, -⟩ := Option.bind_eq_some_iff.1 h
    obtain ⟨inside, hi, -⟩ := Option.bind_eq_some_iff.1 hr
    have hnamed : named = k.name.toList ++ ['('] ++ inside := by
      rw [dropWord?_eq_some.1 hp, expectChar?_eq_some.1 hi]
      simp
    unfold Constructor.fromName? at hn
    split at hn
    · rename_i after ha
      simp only [Option.some.injEq] at hn
      subst hn
      obtain ⟨c, blanks, ht, hc, hblanks⟩ := exists_of_afterNew? ha
      refine ⟨_, inside, callStart_new k hc hblanks, ?_⟩
      rw [ht, hnamed]
      simp
    · split at hn
      · simp at hn
      · rename_i hnew
        simp only [Option.some.injEq] at hn
        subst hn
        exact ⟨_, inside, callStart_name (by simpa using hnew), hnamed⟩

/-! ## Texts without calls -/

/-- No needle of the constructors stands in a text. -/
def Quiet (ks : List Constructor) (text : List Char) : Prop :=
  ∀ k ∈ ks, ∀ word, Needle k word → ¬ word <:+: text

/-- A text that starts, behind blanks, with nothing that goes on with a call. -/
def StopsCall (rest : List Char) : Prop := ∀ c ∈ (skipBlank rest).head?, c ∉ callChars

/-- A text that goes on with a call behind a text without needles. -/
theorem not_callStart_append {k : Constructor} {text rest more : List Char}
    {start : List Char} (hs : CallStart k start) (hq : ∀ word, Needle k word → ¬ word <:+: text)
    (hr : StopsCall rest) : text ++ rest ≠ start ++ more := by
  intro h
  rcases List.append_eq_append_iff.1 h with ⟨x, hstart, hrest⟩ | ⟨x, htext, -⟩
  · -- the start of the call goes on behind the text
    obtain ⟨front, hfront⟩ := hs.last
    obtain ⟨blanks, hb, hblank⟩ := exists_eq_append_skipBlank x
    cases hx : skipBlank x with
    | nil =>
      rw [hx, List.append_nil] at hb
      rcases List.eq_nil_or_concat x with rfl | ⟨y, d, rfl⟩
      · -- the call ends with the text
        rw [List.append_nil] at hstart
        obtain ⟨pre, word, hw, he⟩ := hs.needle
        refine hq word hw ⟨pre, [], ?_⟩
        rw [← hstart, he, List.append_nil]
      · rw [hstart, List.concat_eq_append, ← List.append_assoc] at hfront
        have hd := (List.append_inj' hfront rfl).2
        rw [List.singleton_inj] at hd
        have := hblank d (by rw [← hb]; simp)
        rw [hd] at this
        exact absurd this (by decide)
    | cons c tail =>
      have hskip : skipBlank rest = c :: (tail ++ more) := by
        rw [hrest, hb, List.append_assoc, skipBlank_append hblank, hx, List.cons_append]
        exact skipBlank_cons (isBlank_of_skipBlank_eq_cons hx) _
      have hc := hr c (by rw [hskip]; rfl)
      have hmem : c ∈ start := by
        rw [hstart, hb, hx]
        simp
      rcases hs.chars c hmem with hblankc | hmem
      · rw [isBlank_of_skipBlank_eq_cons hx] at hblankc
        cases hblankc
      · exact hc hmem
  · obtain ⟨pre, word, hw, rfl⟩ := hs.needle
    exact hq word hw ⟨pre, x, htext.symm⟩

variable {ks : List Constructor}

theorem readCall?_eq_none {before : Option Char} {text : List Char}
    (h : ∀ k ∈ ks, ∀ start more, CallStart k start → text ≠ start ++ more) :
    readCall? ks before text = none := by
  refine List.findSome?_eq_none_iff.2 fun k hk => ?_
  cases hr : k.readCall? before text with
  | none => rfl
  | some found =>
    obtain ⟨start, more, hs, ht⟩ := exists_start_of_readCall? hr
    exact absurd ht (h k hk start more hs)

theorem readCall?_nil (before : Option Char) : readCall? ks before [] = none := by
  refine readCall?_eq_none fun k _ start more hs he => ?_
  obtain ⟨c, tail, rfl, -⟩ := hs.exists_cons
  cases he

theorem replaceCalls_nil (before : Option Char) : replaceCalls ks before [] = [] := by
  rw [replaceCalls]
  split
  · rename_i hr
    rw [readCall?_nil] at hr
    cases hr
  · rfl

/-- A character where no call is found is left alone. -/
theorem replaceCalls_of_none {before : Option Char} {c : Char} {rest : List Char}
    (h : readCall? ks before (c :: rest) = none) :
    replaceCalls ks before (c :: rest) = c :: replaceCalls ks (some c) rest := by
  rw [replaceCalls]
  split
  · rename_i hr
    rw [h] at hr
    cases hr
  · rfl

/-- A call that is found is replaced. -/
theorem replaceCalls_of_some {before : Option Char} {text object rest : List Char}
    (h : readCall? ks before text = some (object, rest)) :
    replaceCalls ks before text = object ++ replaceCalls ks (some ')') rest := by
  rw [replaceCalls]
  split
  · rename_i hr
    rw [h] at hr
    cases hr
    rfl
  · rename_i hr
    rw [h] at hr
    cases hr

/-- No call starts with any other character. -/
theorem readCall?_cons {c : Char} (hc : c ∉ ['n', 'O', 'I']) (before : Option Char)
    (rest : List Char) : readCall? ks before (c :: rest) = none := by
  refine readCall?_eq_none fun k _ start more hs he => ?_
  obtain ⟨d, tail, rfl, hd⟩ := hs.exists_cons
  obtain ⟨rfl, -⟩ := List.cons.inj he
  exact hc hd

theorem replaceCalls_cons {c : Char} (hc : c ∉ ['n', 'O', 'I']) (before : Option Char)
    (rest : List Char) : replaceCalls ks before (c :: rest) = c :: replaceCalls ks (some c) rest :=
  replaceCalls_of_none (readCall?_cons hc before rest)

theorem Quiet.tail {c : Char} {text : List Char} (h : Quiet ks (c :: text)) : Quiet ks text :=
  fun k hk word hw hi => h k hk word hw (hi.trans (List.suffix_cons c text).isInfix)

/-- A text without needles is left alone, whatever follows that stops a call. -/
theorem replaceCalls_quiet {text rest : List Char} (hq : Quiet ks text) (hr : StopsCall rest)
    (before : Option Char) :
    ∃ before', replaceCalls ks before (text ++ rest) = text ++ replaceCalls ks before' rest := by
  induction text generalizing before with
  | nil => exact ⟨before, rfl⟩
  | cons c text ih =>
    have hn : readCall? ks before (c :: text ++ rest) = none :=
      readCall?_eq_none fun k hk start more hs => not_callStart_append hs (hq k hk) hr
    obtain ⟨before', h⟩ := ih hq.tail (some c)
    refine ⟨before', ?_⟩
    rw [List.cons_append] at hn ⊢
    rw [replaceCalls_of_none hn, h, List.cons_append]

/-! ## Tokens without calls -/

theorem stopsCall_of_skipSpace {rest : List Char}
    (h : ∀ c ∈ (Json.skipSpace rest).head?, isBlank c = false ∧ c ∉ callChars) :
    StopsCall rest := by
  obtain ⟨space, hs⟩ := exists_eq_append_skipSpace rest
  intro c hc
  rw [hs, skipBlank_append fun d hd => isBlank_of_isSpace (space.space d hd)] at hc
  cases hn : Json.skipSpace rest with
  | nil =>
    rw [hn] at hc
    simp at hc
  | cons d more =>
    obtain ⟨hb, hd⟩ := h d (by rw [hn]; rfl)
    rw [hn, skipBlank_cons hb] at hc
    obtain rfl : d = c := by simpa using hc
    exact hd

theorem stopsCall_of_endsValue {rest : List Char} (h : EndsValue rest) : StopsCall rest := by
  refine stopsCall_of_skipSpace fun c hc => ?_
  rcases h c hc with rfl | rfl | rfl <;> decide

theorem stopsCall_of_endsKey {rest : List Char} (h : EndsKey rest) : StopsCall rest := by
  refine stopsCall_of_skipSpace fun c hc => ?_
  rw [h] at hc
  obtain rfl : ':' = c := by simpa using hc
  decide

theorem Needle.paren_mem {k : Constructor} {word : List Char} (h : Needle k word) :
    '(' ∈ word := by
  rw [Needle] at h
  split at h
  · obtain ⟨c, -, rfl⟩ := h
    simp
  · rw [h]
    simp

/-- A text without a parenthesis has no needle. -/
theorem quiet_of_no_paren {text : List Char} (h : '(' ∉ text) : Quiet ks text :=
  fun _ _ _ hw hi => h (hi.subset hw.paren_mem)

/-- A string that holds the name of no constructor with a parenthesis. -/
def NamesNoCall (s : List Char) : Prop :=
  ¬ "ObjectId(".toList <:+: s ∧ ¬ "Date(".toList <:+: s

theorem quiet_of_namesNoCall {s : List Char} (h : NamesNoCall s) : Quiet ks s := by
  intro k _ word hw hi
  cases k with
  | objectId =>
    obtain rfl : word = "ObjectId(".toList := hw
    exact h.1 hi
  | isoDate =>
    obtain rfl : word = "ISODate(".toList := hw
    exact h.2 (List.IsInfix.trans ⟨"ISO".toList, [], rfl⟩ hi)
  | date =>
    obtain ⟨c, -, rfl⟩ : ∃ c, isBlank c = true ∧ word = c :: "Date(".toList := hw
    exact h.2 ((List.suffix_cons c _).isInfix.trans hi)

theorem not_isEscapeChar_of_isBlank {c : Char} (h : isBlank c = true) : ¬ Json.IsEscapeChar c := by
  rintro (hc | hc)
  · have hnone : ∀ d ∈ ['"', '\\', '/', 'b', 'f', 'n', 'r', 't', 'u'], isBlank d = false :=
      List.all_iff_forall_prop.1 (by decide)
    rw [hnone c hc] at h
    cases h
  · have hident : isIdentChar c = true := by
      -- the digits and the letters that count as such lie in the ranges of identifiers
      unfold hexDigit? at hc
      rw [isIdentChar_iff]
      split at hc
      · rename_i hd
        exact .inr (.inr (.inl (Char.isDigit_iff_toNat.1 hd)))
      · split at hc
        · rename_i hl
          exact .inr (.inl ⟨hl.1, Nat.le_trans hl.2 (by decide)⟩)
        · split at hc
          · rename_i hu
            exact .inl ⟨hu.1, Nat.le_trans hu.2 (by decide)⟩
          · cases hc
    rw [isIdentChar_of_isBlank h] at hident
    cases hident

theorem Needle.spec {k : Constructor} {word : List Char} (h : Needle k word) :
    (∃ d tail, word = d :: tail ∧ ¬ Json.IsEscapeChar d)
      ∧ (∀ q, isQuote q = true → q ∉ word) ∧ '\\' ∉ word := by
  have hname : ∀ d ∈ k.name.toList ++ ['('], isQuote d = false ∧ d ≠ '\\' := by
    cases k <;> exact List.all_iff_forall_prop.1 (by decide)
  have hplain : ∀ d ∈ word, isQuote d = false ∧ d ≠ '\\' := by
    rw [Needle] at h
    split at h
    · obtain ⟨c, hc, rfl⟩ := h
      intro d hd
      rcases List.mem_cons.1 hd with rfl | hd
      · refine ⟨isQuote_of_isBlank hc, ?_⟩
        rintro rfl
        revert hc
        decide
      · exact hname d hd
    · rw [h]
      exact hname
  refine ⟨?_, fun q hq hm => ?_, fun hm => (hplain _ hm).2 rfl⟩
  · cases k with
    | objectId =>
      obtain rfl : word = "ObjectId(".toList := h
      exact ⟨'O', _, rfl, by simp [Json.IsEscapeChar]; decide⟩
    | isoDate =>
      obtain rfl : word = "ISODate(".toList := h
      exact ⟨'I', _, rfl, by simp [Json.IsEscapeChar]; decide⟩
    | date =>
      obtain ⟨c, hc, rfl⟩ : ∃ c, isBlank c = true ∧ word = c :: "Date(".toList := h
      exact ⟨c, _, rfl, not_isEscapeChar_of_isBlank hc⟩
  · have hf := (hplain q hm).1
    rw [hq] at hf
    cases hf

/-- A word without a character stands on one side of it. -/
theorem infix_of_append_cons {word front rest : List Char} {q : Char} (hq : q ∉ word)
    (h : word <:+: front ++ q :: rest) : word <:+: front ∨ word <:+: rest := by
  obtain ⟨before, after, h⟩ := h
  rw [List.append_assoc] at h
  rcases List.append_eq_append_iff.1 h with ⟨x, rfl, hx⟩ | ⟨x, rfl, hx⟩
  · rcases List.append_eq_append_iff.1 hx with ⟨y, rfl, -⟩ | ⟨y, rfl, hy⟩
    · exact .inl ⟨before, y, by rw [List.append_assoc]⟩
    · cases y with
      | nil => exact .inl ⟨before, [], by simp⟩
      | cons d y =>
        obtain ⟨rfl, -⟩ := List.cons.inj hy
        exact absurd (by simp) hq
  · cases x with
    | nil =>
      cases word with
      | nil => exact .inl ⟨[], _, rfl⟩
      | cons d word =>
        obtain ⟨rfl, -⟩ := List.cons.inj hx
        exact absurd (List.mem_cons_self ..) hq
    | cons d x =>
      obtain ⟨rfl, rfl⟩ := List.cons.inj hx
      exact .inr ⟨x, after, by simp⟩

/-- A word that ends with its only `d` ends there, or stands behind it. -/
theorem suffix_or_infix_of_append_cons {word front rest : List Char} {d : Char} (hw : d ∉ word)
    (hf : d ∉ front) (h : word ++ [d] <:+: front ++ d :: rest) :
    word <:+ front ∨ word ++ [d] <:+: rest := by
  obtain ⟨before, after, h⟩ := h
  have hs : before ++ word ++ d :: after = front ++ d :: rest := by simpa using h
  rcases List.append_eq_append_iff.1 hs with ⟨x, rfl, hx⟩ | ⟨x, hx, hrest⟩
  · cases x with
    | nil => exact .inl ⟨before, by simp⟩
    | cons c x =>
      obtain ⟨rfl, -⟩ := List.cons.inj hx
      exact absurd (by simp) hf
  · cases x with
    | nil =>
      rw [List.append_nil] at hx
      exact .inl ⟨before, hx⟩
    | cons c x =>
      obtain ⟨rfl, rfl⟩ := List.cons.inj hrest
      rcases List.append_eq_append_iff.1 hx with ⟨y, -, hy⟩ | ⟨y, -, hy⟩
      · exact absurd (by simp [hy]) hw
      · cases y with
        | nil =>
          obtain rfl : d :: x = word := hy
          exact absurd (List.mem_cons_self ..) hw
        | cons c y =>
          obtain ⟨-, rfl⟩ := List.cons.inj hy
          exact .inr ⟨y, after, by simp⟩

/-- A literal whose string names no call. -/
theorem quiet_literal {l : Literal} (h : NamesNoCall l.chars) : Quiet ks l.text := by
  intro k hk word hw hi
  obtain ⟨⟨d, tail, rfl, hd⟩, hq, hb⟩ := hw.spec
  have hmem := hq l.quote l.quote_isQuote
  have hdq : d ≠ l.quote := by
    rintro rfl
    exact hmem (List.mem_cons_self ..)
  have hnil : ¬ d :: tail <:+: [] := by simp
  have htext : d :: tail <:+: [] ++ l.quote :: (l.written ++ [l.quote]) := hi
  rcases infix_of_append_cons hmem htext with hfront | hbehind
  · exact hnil hfront
  · rcases infix_of_append_cons hmem hbehind with hwritten | hlast
    · exact quiet_of_namesNoCall h k hk _ hw (l.spells.infix_chars hd hdq hb hwritten)
    · exact hnil hlast

theorem Space.paren_notMem (s : Space) : '(' ∉ s.text :=
  fun h => absurd (s.space _ h) (by decide)

/-- A call of another constructor than that of an object id. -/
theorem quiet_call {c : ConstructorCall} (hk : c.kind ≠ .objectId) (h : NamesNoCall c.chars) :
    Quiet [.objectId] c.text := by
  intro k hmem word hw hi
  obtain rfl := List.mem_singleton.1 hmem
  obtain rfl : word = "ObjectId".toList ++ ['('] := hw
  have ht : c.text = (c.newText ++ c.kind.name.toList)
      ++ '(' :: (c.inner.text ++ (c.argumentText ++ [')'])) := by
    simp [ConstructorCall.text]
  have hnew : '(' ∉ c.newText := by
    unfold ConstructorCall.newText
    split
    · rename_i s _
      simp [s.paren_notMem]
    · simp
  have hname : '(' ∉ c.kind.name.toList := by cases c.kind <;> decide
  rw [ht] at hi
  rcases suffix_or_infix_of_append_cons (by decide) (by simp [hnew, hname]) hi with hi | hi
  · -- the two names end differently
    obtain ⟨front, hf⟩ := hi
    have hlast := congrArg List.getLast? hf
    cases hkind : c.kind with
    | objectId => exact hk hkind
    | isoDate =>
      rw [hkind] at hlast
      simp [Constructor.name] at hlast
    | date =>
      rw [hkind] at hlast
      simp [Constructor.name] at hlast
  · have hparen : ∀ {text : List Char}, '(' ∉ text →
        ¬ "ObjectId".toList ++ ['('] <:+: text := fun hn hi => hn (hi.subset (by simp))
    unfold ConstructorCall.argumentText at hi
    unfold ConstructorCall.chars at h
    split at hi
    · rename_i a ha
      have hq : a.quote ∉ "ObjectId".toList ++ ['('] := by
        rcases a.quote_eq with hq | hq <;> rw [hq] <;> decide
      rw [ha] at h
      have hs : c.inner.text ++ ((a.quote :: a.chars ++ a.quote :: a.after.text) ++ [')'])
          = c.inner.text ++ a.quote :: (a.chars ++ a.quote :: (a.after.text ++ [')'])) := by simp
      rw [hs] at hi
      rcases infix_of_append_cons hq hi with hi | hi
      · exact hparen c.inner.paren_notMem hi
      · rcases infix_of_append_cons hq hi with hi | hi
        · exact h.1 hi
        · exact hparen (by simp [a.after.paren_notMem]) hi
    · exact hparen (by simp [c.inner.paren_notMem]) hi

/-! ## Calls that are read -/

theorem skipBlank_space (space : Space) {c : Char} (hc : isBlank c = false) (rest : List Char) :
    skipBlank (space.text ++ c :: rest) = c :: rest := by
  rw [skipBlank_append fun d hd => isBlank_of_isSpace (space.space d hd), skipBlank_cons hc]

theorem readQuoted?_append {q : Char} {chars : List Char} (hq : q = '"' ∨ q = '\'')
    (hc : q ∉ chars) (rest : List Char) :
    readQuoted? (q :: (chars ++ q :: rest)) = some (chars, rest) := by
  have hne : ∀ c ∈ chars, decide (c ≠ q) = true := by
    intro c hm
    refine decide_eq_true ?_
    rintro rfl
    exact hc hm
  have hquote : (decide (q = '"') || decide (q = '\'')) = true := by simpa using hq
  rw [readQuoted?, if_pos hquote, List.dropWhile_append_of_pos hne,
    List.takeWhile_append_of_pos hne]
  simp

/-- The parentheses of a call are read, with the argument between them. -/
theorem readParens?_call (c : ConstructorCall) (rest : List Char) :
    readParens? ('(' :: (c.inner.text ++ (c.argumentText ++ ')' :: rest)))
      = some (c.argument.map QuotedArgument.chars, rest) := by
  unfold ConstructorCall.argumentText
  cases ha : c.argument with
  | none =>
    simp only [readParens?, expectChar?, if_true, Option.bind_eq_bind, Option.bind_some,
      List.nil_append]
    rw [skipBlank_space c.inner (by decide)]
    rfl
  | some a =>
    have hb : isBlank a.quote = false := by
      rcases a.quote_eq with hq | hq <;> rw [hq] <;> decide
    have hs : a.quote :: a.chars ++ a.quote :: a.after.text ++ ')' :: rest
        = a.quote :: (a.chars ++ a.quote :: (a.after.text ++ ')' :: rest)) := by simp
    simp only [readParens?, expectChar?, if_true, Option.bind_eq_bind, Option.bind_some, hs]
    rw [skipBlank_space c.inner hb, readQuoted?_append a.quote_eq a.quote_notMem]
    simp only [skipBlank_space a.after (show isBlank ')' = false by decide), if_true]
    rfl

theorem dropWord?_append (word rest : List Char) : dropWord? word (word ++ rest) = some rest :=
  dropWord?_eq_some.2 rfl

/-- What stands behind `new` and the white space there. -/
theorem afterNew?_append {s : Space} (hs : s.text ≠ []) {c : Char} (hc : isBlank c = false)
    (rest : List Char) :
    afterNew? ("new".toList ++ (s.text ++ c :: rest)) = some (c :: rest) := by
  have hskip := skipBlank_space s hc rest
  have hspace := s.space
  generalize s.text = text at hs hskip hspace
  cases text with
  | nil => exact absurd rfl hs
  | cons d text =>
    have hd := isBlank_of_isSpace (hspace d (List.mem_cons_self ..))
    have htail : skipBlank (text ++ c :: rest) = c :: rest := by
      simpa [skipBlank, hd] using hskip
    unfold afterNew?
    rw [dropWord?_append]
    simp only [List.cons_append, hd, if_true, htail]

/-- The name of a constructor starts with no blank, and with another character than
the names of the others. -/
theorem exists_name_eq (k : Constructor) : ∃ c tail, k.name.toList = c :: tail
    ∧ isBlank c = false ∧ c ≠ 'n' := by
  cases k <;> exact ⟨_, _, rfl, by decide, by decide⟩

/-- The text of a call from its name on. -/
theorem fromName?_call (k : Constructor) (c : ConstructorCall) (rest : List Char) :
    k.fromName? (c.text ++ rest)
      = if k.needsNew = true ∧ c.afterNew = none then none
        else some (c.kind.name.toList
          ++ '(' :: (c.inner.text ++ (c.argumentText ++ ')' :: rest))) := by
  obtain ⟨d, tail, hname, hd, hn⟩ := exists_name_eq c.kind
  have ht : c.text ++ rest = c.newText ++ (c.kind.name.toList
      ++ '(' :: (c.inner.text ++ (c.argumentText ++ ')' :: rest))) := by
    simp [ConstructorCall.text]
  rw [ht]
  unfold ConstructorCall.newText Constructor.fromName?
  cases ha : c.afterNew with
  | some s =>
    have hs := c.afterNew_ne_nil s (by rw [ha]; rfl)
    rw [hname, List.cons_append, List.append_assoc, afterNew?_append hs hd]
    simp
  | none =>
    have hnone : ∀ t, afterNew? (d :: t) = none := by
      intro t
      simp [afterNew?, dropWord?, Ne.symm hn]
    rw [List.nil_append, hname, List.cons_append, hnone]
    simp

/-- A call is read as the object that stands for it. -/
theorem readCall?_call (c : ConstructorCall) {before : Option Char} (hb : isWordAt before = false)
    (rest : List Char) :
    c.kind.readCall? before (c.text ++ rest) = some (c.kind.objectText c.chars, rest) := by
  have hnew : ¬ (c.kind.needsNew = true ∧ c.afterNew = none) := by
    rintro ⟨h1, h2⟩
    have h := c.afterNew_isSome h1
    rw [h2] at h
    cases h
  rw [Constructor.readCall?, if_neg (by simp [hb]), fromName?_call, if_neg hnew]
  simp only [Option.bind_eq_bind, Option.bind_some, dropWord?_append, readParens?_call]
  unfold ConstructorCall.chars
  cases ha : c.argument with
  | some a => rfl
  | none =>
    cases hk : c.kind.noArgument? with
    | some s => rfl
    | none =>
      have h := c.argument_isSome (by rw [hk]; rfl)
      rw [ha] at h
      cases h

theorem dropWord?_other_name {k k' : Constructor} (h : k ≠ k') (rest : List Char) :
    dropWord? k.name.toList (k'.name.toList ++ rest) = none := by
  cases k <;> cases k' <;> first | exact absurd rfl h | rfl

/-- A call is no call of another constructor. -/
theorem readCall?_other {k : Constructor} {c : ConstructorCall} (h : k ≠ c.kind)
    (before : Option Char) (rest : List Char) : k.readCall? before (c.text ++ rest) = none := by
  rw [Constructor.readCall?, fromName?_call]
  split
  · rfl
  · split
    · rfl
    · simp only [Option.bind_eq_bind, Option.bind_some, dropWord?_other_name h, Option.bind_none]

/-- A call of one of the constructors is found. -/
theorem readCall?_of_mem {c : ConstructorCall} (hk : c.kind ∈ ks) {before : Option Char}
    (hb : isWordAt before = false) (rest : List Char) :
    readCall? ks before (c.text ++ rest) = some (c.kind.objectText c.chars, rest) := by
  unfold readCall?
  induction ks with
  | nil => simp at hk
  | cons k ks ih =>
    rw [List.findSome?_cons]
    by_cases h : k = c.kind
    · rw [h, readCall?_call c hb]
    · rw [readCall?_other h]
      rcases List.mem_cons.1 hk with hk | hk
      · exact absurd hk.symm h
      · exact ih hk

/-! ## The pass -/

/-- A string as it is written. -/
def writtenLiteral (s : List Char) : Literal where
  quote := '"'
  written := s.flatMap Json.escapeChar
  chars := s
  quote_isQuote := isQuote_doubleQuote
  spells := Json.spells_flatMap_escapeChar s

/-- No white space. -/
def noSpace : Space := ⟨[], by simp⟩

/-- The object that stands for a call. -/
def ConstructorCall.object (c : ConstructorCall) : Tree :=
  .object noSpace (.cons noSpace (.quoted (writtenLiteral c.kind.key.toList)) noSpace noSpace
    (.leaf (.string (writtenLiteral c.chars))) noSpace .nil)

theorem ConstructorCall.object_text (c : ConstructorCall) :
    c.object.text = c.kind.objectText c.chars := by
  simp [ConstructorCall.object, Constructor.objectText, Tree.text, Members.text, Members.comma,
    noSpace, Key.text, Leaf.text, Literal.text, writtenLiteral, Json.stringText]

/-- The tree for a leaf when the calls of the constructors are replaced. -/
def expandLeaf (ks : List Constructor) : Leaf → Tree
  | .call c => if c.kind ∈ ks then c.object else .leaf (.call c)
  | a => .leaf a

/-- A leaf whose calls can be told from the rest of its text. -/
def Leaf.Settled (ks : List Constructor) : Leaf → Prop
  | .string l => NamesNoCall l.chars
  | .call c => c.kind ∈ ks ∨ Quiet ks c.text
  | .null | .bool _ | .number _ => True

/-- A key that names no call. -/
def Key.NamesNoCall (k : Key) : Prop := Spelling.NamesNoCall k.chars

/-- A leaf that is no call of the constructors. -/
theorem quiet_leaf {a : Leaf} (h : a.Settled ks) (hc : ∀ c, a = .call c → c.kind ∉ ks) :
    Quiet ks a.text := by
  cases a with
  | null => exact quiet_of_no_paren (by decide)
  | bool b => cases b <;> exact quiet_of_no_paren (by decide)
  | string l => exact quiet_literal h
  | number n =>
    refine quiet_of_no_paren fun hm => ?_
    have hn := n.isNumber.chars '(' hm
    revert hn
    decide
  | call c =>
    rcases h with hk | hq
    · exact absurd hk (hc c rfl)
    · exact hq

theorem quiet_key {k : Key} (h : k.NamesNoCall) : Quiet ks k.text := by
  cases k with
  | quoted l => exact quiet_literal h
  | bare n =>
    refine quiet_of_no_paren fun hm => ?_
    have hn : isIdentChar '(' = true := by
      rcases List.mem_cons.1 hm with he | hm
      · exact isIdentChar_of_isIdentStart (he ▸ n.head_start)
      · exact n.tail_char _ hm
    revert hn
    decide

/-- Replacing the calls of constructors is a pass. -/
def callPass (ks : List Constructor) :
    Pass (Leaf.Settled ks) Key.NamesNoCall (expandLeaf ks) id where
  State := Option Char
  run := replaceCalls ks
  Ready s := isWordAt s = false
  KeyReady _ := True
  run_space s c rest h := by
    have hword : isWord c = false := Json.of_isSpace h (by decide +kernel)
    have hstart : c ∉ ['n', 'O', 'I'] := Json.of_isSpace h (by decide)
    exact ⟨some c, replaceCalls_cons hstart s rest, fun _ => hword, id⟩
  run_mark s c rest h := by
    have hword : isWord c = false := h.elim (by decide +kernel)
    have hstart : c ∉ ['n', 'O', 'I'] := h.elim (by decide)
    exact ⟨some c, replaceCalls_cons hstart s rest, hword, fun _ => trivial⟩
  run_leaf a h s rest hs hr := by
    have hquiet : (∀ c, a = .call c → c.kind ∉ ks) → ∃ s',
        replaceCalls ks s (a.text ++ rest) = a.text ++ replaceCalls ks s' rest :=
      fun hc => replaceCalls_quiet (quiet_leaf h hc) (stopsCall_of_endsValue hr) s
    cases a with
    | call c =>
      by_cases hk : c.kind ∈ ks
      · refine ⟨some ')', ?_⟩
        rw [expandLeaf, if_pos hk, c.object_text]
        exact replaceCalls_of_some (readCall?_of_mem hk hs rest)
      · rw [expandLeaf, if_neg hk]
        refine hquiet ?_
        rintro c' h'
        cases h'
        exact hk
    | null => exact hquiet nofun
    | bool b => exact hquiet nofun
    | string l => exact hquiet nofun
    | number n => exact hquiet nofun
  run_key k h s rest _ hr := replaceCalls_quiet (quiet_key h) (stopsCall_of_endsKey hr) s

end ShellQuery.Spelling
