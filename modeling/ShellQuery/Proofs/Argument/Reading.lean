import ShellQuery.Proofs.Argument.Tree
import ShellQuery.Proofs.Json.Grammar

/-!
# Reading the text of a tree

A tree is *plain* when its strings and keys stand in double quotes and no leaf is a
call.  The JSON reader reads the text of a plain tree as its value (`readValue_tree`),
and every text that it reads is the text of a plain tree (`exists_tree_of_readValue`).
So the trees are a grammar of what the reader accepts, its bound on nesting included.
-/

namespace ShellQuery.Spelling

open ShellQuery.Text
open ShellQuery.Decimal (digitsValue)
open ShellQuery.Json (readValue readText readArray readItems readObject readMembers readMember
  readNumber readString skipSpace isNumberChar EndsNumber Takes)

/-! ## Plain trees -/

/-- A leaf of JSON. -/
def Leaf.Plain : Leaf → Prop
  | .null | .bool _ | .number _ => True
  | .string l => l.quote = '"'
  | .call _ => False

/-- A key of JSON. -/
def Key.Plain : Key → Prop
  | .bare _ => False
  | .quoted l => l.quote = '"'

/-- A tree of JSON. -/
def Tree.Plain (t : Tree) : Prop := t.All Leaf.Plain Key.Plain

/-- Items of JSON. -/
def Items.Plain (items : Items) : Prop := items.All Leaf.Plain Key.Plain

/-- Members of JSON. -/
def Members.Plain (members : Members) : Prop := members.All Leaf.Plain Key.Plain

/-! ## Numbers -/

theorem endsNumber_of_endsValue {rest : List Char} (h : EndsValue rest) : EndsNumber rest := by
  intro c hc
  cases rest with
  | nil => simp at hc
  | cons d more =>
    obtain rfl : d = c := by simpa using hc
    cases hs : Json.isSpace d with
    | true => exact Json.of_isSpace hs (by decide)
    | false =>
      have he := h d (by rw [skipSpace_cons hs]; rfl)
      rcases he with rfl | rfl | rfl <;> decide

/-- White space in front of a value is skipped. -/
theorem readValue_space (levels : Nat) (space : Space) (text : List Char) :
    readValue levels (space.text ++ text) = readValue levels text := by
  unfold readValue
  rw [skipSpace_append space.space]

/-! ## Leaves -/

theorem readWord_iff {word text rest : List Char} :
    Json.readWord word text = .ok rest ↔ text = word ++ rest := by
  induction word generalizing text with
  | nil => simp [Json.readWord]
  | cons w word ih =>
    cases text with
    | nil => simp [Json.readWord, Json.failBefore]
    | cons c text =>
      by_cases hc : c = w
      · simp [Json.readWord, hc, ih]
      · simp [Json.readWord, hc, Json.failAt]

/-- The characters of a number: a sign, if there is one, and what is read behind it. -/
inductive IsNumber : List Char → Json → Prop where
  /-- A number without a sign. -/
  | positive {c : Char} {front : List Char} {v : Json} : c.isDigit = true →
      Json.ReadsFront (readNumber false) (c :: front) v → IsNumber (c :: front) v
  /-- A number behind a minus sign. -/
  | negative {front : List Char} {v : Json} : Json.ReadsFront (readNumber true) front v →
      IsNumber ('-' :: front) v

theorem isArray_of_readArray {item : Json.Reader Json} {text rest : List Char} {v : Json}
    (h : readArray item text = .ok (v, rest)) : ∃ vs, v = .array vs := by
  unfold readArray at h
  split at h
  · simp [Json.failBefore] at h
  · simp only [Except.ok.injEq, Prod.mk.injEq] at h
    exact ⟨_, h.1.symm⟩
  · obtain ⟨⟨x, after⟩, -, h⟩ := Json.bind_eq_ok.1 h
    obtain ⟨⟨xs, after'⟩, -, h⟩ := Json.bind_eq_ok.1 h
    simp only [Except.ok.injEq, Prod.mk.injEq] at h
    exact ⟨_, h.1.symm⟩

theorem isObject_of_readObject {item : Json.Reader Json} {text rest : List Char} {v : Json}
    (h : readObject item text = .ok (v, rest)) : ∃ ms, v = .object ms := by
  unfold readObject at h
  split at h
  · simp [Json.failBefore] at h
  · simp only [Except.ok.injEq, Prod.mk.injEq] at h
    exact ⟨_, h.1.symm⟩
  · obtain ⟨⟨⟨k, v⟩, after⟩, -, h⟩ := Json.bind_eq_ok.1 h
    obtain ⟨⟨ms, after'⟩, -, h⟩ := Json.bind_eq_ok.1 h
    simp only [Except.ok.injEq, Prod.mk.injEq] at h
    exact ⟨_, h.1.symm⟩

/-- What is read at the first character of a value. -/
inductive Reads (levels : Nat) : List Char → Json → List Char → Prop where
  /-- The word `null`. -/
  | null {rest : List Char} : Reads levels (Leaf.null.text ++ rest) .null rest
  /-- The word of a boolean. -/
  | bool {b : Bool} {rest : List Char} : Reads levels ((Leaf.bool b).text ++ rest) (.bool b) rest
  /-- A string. -/
  | string {l : Literal} {rest : List Char} : l.quote = '"' →
      Reads levels (l.text ++ rest) (.string (String.ofList l.chars)) rest
  /-- A number. -/
  | number {front rest : List Char} {v : Json} :
      IsNumber front v → Reads levels (front ++ rest) v rest
  /-- An array. -/
  | array {text rest : List Char} {v : Json} {more : Nat} : levels = more + 1 →
      readArray (readValue more) text = .ok (v, rest) → Reads levels ('[' :: text) v rest
  /-- An object. -/
  | object {text rest : List Char} {v : Json} {more : Nat} : levels = more + 1 →
      readObject (readValue more) text = .ok (v, rest) → Reads levels ('\x7b' :: text) v rest

theorem reads_of_readValue {levels : Nat} {text rest : List Char} {v : Json}
    (h : readValue levels text = .ok (v, rest)) : Reads levels (skipSpace text) v rest := by
  unfold readValue at h
  split at h
  case h_1 => simp [Json.failBefore] at h
  case h_2 t heq =>
    obtain ⟨rest', h₁, h₂⟩ := Json.bind_eq_ok.1 h
    simp only [Except.ok.injEq, Prod.mk.injEq] at h₂
    obtain ⟨rfl, rfl⟩ := h₂
    rw [heq, readWord_iff.1 h₁]
    exact .null
  case h_3 t heq =>
    obtain ⟨rest', h₁, h₂⟩ := Json.bind_eq_ok.1 h
    simp only [Except.ok.injEq, Prod.mk.injEq] at h₂
    obtain ⟨rfl, rfl⟩ := h₂
    rw [heq, readWord_iff.1 h₁]
    exact .bool (b := true)
  case h_4 t heq =>
    obtain ⟨rest', h₁, h₂⟩ := Json.bind_eq_ok.1 h
    simp only [Except.ok.injEq, Prod.mk.injEq] at h₂
    obtain ⟨rfl, rfl⟩ := h₂
    rw [heq, readWord_iff.1 h₁]
    exact .bool (b := false)
  case h_5 t heq =>
    obtain ⟨front, rfl, hf⟩ := Json.takes_readNumber h
    rw [heq]
    exact .number (.negative hf)
  case h_6 t heq =>
    obtain ⟨⟨s, after⟩, h₁, h₂⟩ := Json.bind_eq_ok.1 h
    simp only [Except.ok.injEq, Prod.mk.injEq] at h₂
    obtain ⟨rfl, rfl⟩ := h₂
    obtain ⟨w, hw, rfl⟩ := Json.readString_iff.1 h₁
    have hl : Reads levels (Literal.text ⟨'"', w, s.toList, by decide, hw⟩ ++ after) _ after :=
      .string rfl
    rw [heq]
    simpa [Literal.text] using hl
  case h_7 t heq =>
    rw [heq]
    split at h
    · simp [Json.failAt] at h
    · exact .array rfl h
  case h_8 t heq =>
    rw [heq]
    split at h
    · simp [Json.failAt] at h
    · exact .object rfl h
  case h_9 c t _ _ _ _ _ _ _ heq =>
    rw [heq]
    split at h
    · rename_i hc
      obtain ⟨front, ht, hf⟩ := Json.takes_readNumber h
      cases front with
      | nil =>
        have h0 := hf.reads [] (by simp [EndsNumber])
        simp [readNumber, Json.failBefore] at h0
      | cons d front =>
        rw [ht]
        obtain ⟨rfl, rfl⟩ := List.cons.inj ht
        exact .number (.positive hc hf)
    · simp [Json.failAt] at h

theorem isSpace_of_isNumberChar {c : Char} (h : isNumberChar c = true) :
    Json.isSpace c = false := by
  cases hs : Json.isSpace c with
  | false => rfl
  | true =>
    have hn : isNumberChar c = false := Json.of_isSpace hs (by decide)
    rw [hn] at h
    cases h

theorem IsNumber.chars {front : List Char} {v : Json} (h : IsNumber front v) :
    ∀ c ∈ front, isNumberChar c = true := by
  cases h with
  | positive _ hf => exact hf.chars
  | negative hf =>
    rw [List.forall_mem_cons]
    exact ⟨by decide, hf.chars⟩

theorem IsNumber.isNumber {front : List Char} {v : Json} (h : IsNumber front v) :
    ∃ n, v = .number n := by
  cases h with
  | positive _ hf => exact hf.isNumber
  | negative hf => exact hf.isNumber

/-- A number is read in front of what ends it. -/
theorem readValue_isNumber {front : List Char} {v : Json} (h : IsNumber front v) (levels : Nat)
    {rest : List Char} (hr : EndsNumber rest) :
    readValue levels (front ++ rest) = .ok (v, rest) := by
  cases h with
  | negative hf =>
    rw [List.cons_append, readValue, skipSpace_cons (by decide)]
    exact hf.reads rest hr
  | @positive c front _ hc hf =>
    have hs : Json.isSpace c = false := isSpace_of_isNumberChar (Json.isNumberChar_of_isDigit hc)
    have hne : ∀ d : Char, d.isDigit = false → c ≠ d := by
      rintro d hd rfl
      rw [hd] at hc
      cases hc
    rw [List.cons_append, readValue, skipSpace_cons hs]
    split
    case h_9 =>
      rename_i heq
      obtain ⟨rfl, rfl⟩ := List.cons.inj heq
      rw [if_pos hc]
      exact hf.reads rest hr
    all_goals
      rename_i heq
      first
        | exact absurd (List.cons.inj heq).1 (hne _ (by decide))
        | cases heq

/-- What is read as a number is the text of a number. -/
theorem IsNumber.exists_number {front : List Char} {v : Json} (h : IsNumber front v) :
    ∃ n : Number, n.text = front ∧ .number n.value = v := by
  obtain ⟨n, rfl⟩ := h.isNumber
  have hr : readValue Json.maxLevels (front ++ []) = .ok (.number n, []) :=
    readValue_isNumber h Json.maxLevels (by simp [EndsNumber])
  rw [List.append_nil] at hr
  refine ⟨⟨front, n, Json.bind_eq_ok.2 ⟨_, hr, rfl⟩, ?_⟩, rfl, rfl⟩
  exact fun c hc => isSpace_of_isNumberChar (h.chars c hc)

/-- The text of a number is read as one, whatever ends it. -/
theorem Number.isNumber (n : Number) : IsNumber n.text (.number n.value) := by
  obtain ⟨⟨v, rest⟩, hv, hend⟩ := Json.bind_eq_ok.1 n.reads
  have hrest : skipSpace rest = [] ∧ v = .number n.value := by
    dsimp only at hend
    split at hend
    · rename_i heq
      simp only [Except.ok.injEq] at hend
      exact ⟨heq, hend⟩
    · simp [Json.failAt] at hend
  obtain ⟨hrest, rfl⟩ := hrest
  have hskip : skipSpace n.text = n.text := by
    cases ht : n.text with
    | nil => rfl
    | cons c more => exact skipSpace_cons (n.trimmed c (by simp [ht])) more
  have hreads := reads_of_readValue hv
  rw [hskip] at hreads
  generalize ht : n.text = text at hreads
  generalize hval : Json.number n.value = val at hreads
  cases hreads with
  | null => cases hval
  | bool => cases hval
  | string => cases hval
  | array _ hr =>
    obtain ⟨vs, rfl⟩ := isArray_of_readArray hr
    cases hval
  | object _ hr =>
    obtain ⟨ms, rfl⟩ := isObject_of_readObject hr
    cases hval
  | @number front rest v hn =>
    -- behind the number there is only white space, and a number holds none
    have hnil : rest = [] := by
      cases rest with
      | nil => rfl
      | cons c more =>
        have hc := n.trimmed c (by simp [ht])
        rw [skipSpace_cons hc] at hrest
        cases hrest
    rw [hnil, List.append_nil]
    exact hn

/-- Digits denote the number that they stand for, if it is a word of 64 bits. -/
theorem Number.value_of_isWhole (n : Number) (h : Json.IsWhole n.text)
    (hfit : digitsValue n.text < Width.words64) : n.value = .int (digitsValue n.text) := by
  have hn := n.isNumber
  have hread := Json.readNumber_whole false h (Nat.le_pred_of_lt hfit)
    (show EndsNumber [] by simp [EndsNumber])
  generalize n.text = text at h hn hread ⊢
  cases hn with
  | positive hc hf =>
    rw [hf.reads [] (by simp [EndsNumber])] at hread
    exact Json.number.inj (Prod.mk.inj (Except.ok.inj hread)).1
  | negative hf =>
    -- a whole number has no sign
    cases h with
    | digits h0 hc => cases hc

/-- Behind a minus sign digits denote the opposite number, if that has 64 bits. -/
theorem Number.value_of_minus (n : Number) {whole : List Char} (htext : n.text = '-' :: whole)
    (h : Json.IsWhole whole) (hpos : 0 < digitsValue whole)
    (hfit : Width.isInt64 (-(digitsValue whole : Int)) = true) :
    n.value = .int (-(digitsValue whole : Int)) := by
  have hn := n.isNumber
  have hbound : digitsValue whole ≤ Json.significandMax := by
    have hbounds := Width.isInt64_iff.1 hfit
    simp only [Json.significandMax, Width.words64]
    omega
  have hread := Json.readNumber_whole true h hbound (show EndsNumber [] by simp [EndsNumber])
  rw [htext] at hn
  cases hn with
  | positive hc => cases hc
  | negative hf =>
    rw [hf.reads [] (by simp [EndsNumber]), Json.readNumberEnd.integer, if_neg (by simp),
      if_pos (by simp [hpos, hfit])] at hread
    exact Json.number.inj (Prod.mk.inj (Except.ok.inj hread)).1

/-- A leaf is read in front of what may follow a value. -/
theorem readValue_leaf (a : Leaf) (h : a.Plain) (levels : Nat) {rest : List Char}
    (hr : EndsValue rest) : readValue levels (a.text ++ rest) = .ok (a.value, rest) := by
  cases a with
  | null =>
    change readValue levels ('n' :: 'u' :: 'l' :: 'l' :: rest) = _
    rw [readValue, skipSpace_cons (by decide)]
    rfl
  | bool b =>
    cases b with
    | true =>
      change readValue levels ('t' :: 'r' :: 'u' :: 'e' :: rest) = _
      rw [readValue, skipSpace_cons (by decide)]
      rfl
    | false =>
      change readValue levels ('f' :: 'a' :: 'l' :: 's' :: 'e' :: rest) = _
      rw [readValue, skipSpace_cons (by decide)]
      rfl
  | number n => exact readValue_isNumber n.isNumber levels (endsNumber_of_endsValue hr)
  | string l =>
    have hq : l.quote = '"' := h
    have hw := l.spells
    rw [hq] at hw
    have hs : readString (l.written ++ '"' :: rest) = .ok (String.ofList l.chars, rest) := by
      refine Json.readString_iff.2 ⟨l.written, ?_, rfl⟩
      rw [String.toList_ofList]
      exact hw
    have ht : (Leaf.string l).text ++ rest = '"' :: (l.written ++ '"' :: rest) := by
      simp [Leaf.text, Literal.text, hq]
    rw [ht, readValue, skipSpace_cons (by decide)]
    exact Json.bind_eq_ok.2 ⟨_, hs, rfl⟩
  | call c => exact h.elim

/-- A value starts with no white space and no closing bracket. -/
theorem Tree.Plain.head {t : Tree} (h : t.Plain) :
    ∃ c more, t.text = c :: more ∧ Json.isSpace c = false ∧ c ≠ ']' := by
  cases t with
  | array inner items => exact ⟨'[', _, rfl, by decide, by decide⟩
  | object inner members => exact ⟨'\x7b', _, rfl, by decide, by decide⟩
  | leaf a =>
    cases a with
    | null => exact ⟨'n', _, rfl, by decide, by decide⟩
    | bool b => cases b <;> exact ⟨_, _, rfl, by decide, by decide⟩
    | string l =>
      have hq : l.quote = '"' := h
      exact ⟨l.quote, _, rfl, by rw [hq]; decide, by rw [hq]; decide⟩
    | call c => exact h.elim
    | number n =>
      have hn := n.isNumber
      cases ht : n.text with
      | nil =>
        rw [ht] at hn
        cases hn
      | cons c more =>
        refine ⟨c, more, ht, n.trimmed c (by simp [ht]), ?_⟩
        rintro rfl
        have hc := hn.chars ']' (by simp [ht])
        revert hc
        decide

/-! ## Steps of the reader -/

theorem readValue_array (levels : Nat) (text : List Char) :
    readValue (levels + 1) ('[' :: text) = readArray (readValue levels) text := by
  rw [readValue, skipSpace_cons (by decide)]
  rfl

theorem readValue_object (levels : Nat) (text : List Char) :
    readValue (levels + 1) ('\x7b' :: text) = readObject (readValue levels) text := by
  rw [readValue, skipSpace_cons (by decide)]
  rfl

/-- An array without items. -/
theorem readArray_nil (item : Json.Reader Json) {text rest : List Char}
    (hs : skipSpace text = ']' :: rest) : readArray item text = .ok (.array [], rest) := by
  simp only [readArray, hs]

/-- An array with an item. -/
theorem readArray_cons (item : Json.Reader Json) {text more : List Char} {c : Char}
    (hs : skipSpace text = c :: more) (hc : c ≠ ']') :
    readArray item text = (do
      let (x, after) ← item (c :: more)
      let (xs, after) ← readItems item (after.length + 1) after
      .ok (.array (x :: xs), after)) := by
  unfold readArray
  split
  · rename_i heq
    rw [hs] at heq
    cases heq
  · rename_i heq
    rw [hs] at heq
    exact absurd (List.cons.inj heq).1 hc
  · rw [hs]

/-- Another item behind a comma. -/
theorem readItems_cons (item : Json.Reader Json) (fuel : Nat) {text text' more : List Char}
    {c : Char} (hs : skipSpace text = ',' :: text') (hs' : skipSpace text' = c :: more)
    (hc : c ≠ ']') :
    readItems item (fuel + 1) text = (do
      let (x, after) ← item (c :: more)
      let (xs, after) ← readItems item fuel after
      .ok (x :: xs, after)) := by
  simp only [readItems, hs]
  split
  · rename_i heq
    rw [hs'] at heq
    cases heq
  · rename_i heq
    rw [hs'] at heq
    exact absurd (List.cons.inj heq).1 hc
  · rw [hs']

/-- The closing bracket. -/
theorem readItems_nil (item : Json.Reader Json) (fuel : Nat) {text rest : List Char}
    (hs : skipSpace text = ']' :: rest) : readItems item (fuel + 1) text = .ok ([], rest) := by
  simp only [readItems, hs]

/-- An object without members. -/
theorem readObject_nil (item : Json.Reader Json) {text rest : List Char}
    (hs : skipSpace text = '\x7d' :: rest) : readObject item text = .ok (.object [], rest) := by
  simp only [readObject, hs]

/-- An object with a member. -/
theorem readObject_cons (item : Json.Reader Json) {text more : List Char}
    (hs : skipSpace text = '"' :: more) :
    readObject item text = (do
      let ((key, value), after) ← readMember item ('"' :: more)
      let (members, after) ← readMembers item (after.length + 1) [(key, value)] after
      .ok (.object members, after)) := by
  simp only [readObject, hs]
  rfl

/-- Another member behind a comma. -/
theorem readMembers_cons (item : Json.Reader Json) (fuel : Nat) (members : JsonMembers)
    {text text' : List Char} (hs : skipSpace text = ',' :: text') :
    readMembers item (fuel + 1) members text = (do
      let ((key, value), after) ← readMember item (skipSpace text')
      readMembers item fuel (Json.put key value members) after) := by
  simp only [readMembers, hs]

/-- The closing brace. -/
theorem readMembers_nil (item : Json.Reader Json) (fuel : Nat) (members : JsonMembers)
    {text rest : List Char} (hs : skipSpace text = '\x7d' :: rest) :
    readMembers item (fuel + 1) members text = .ok (members, rest) := by
  simp only [readMembers, hs]

/-- A key, a colon and a value. -/
theorem readMember_of_item {item : Json.Reader Json} {k : Key} (hk : k.Plain) (afterKey : Space)
    {text rest : List Char} {v : Json} (h : item text = .ok (v, rest)) :
    readMember item (k.text ++ (afterKey.text ++ ':' :: text))
      = .ok ((String.ofList k.chars, v), rest) := by
  cases k with
  | bare n => exact hk.elim
  | quoted l =>
    have hq : l.quote = '"' := hk
    have hw := l.spells
    rw [hq] at hw
    have hs : readString (l.written ++ '"' :: (afterKey.text ++ ':' :: text))
        = .ok (String.ofList l.chars, afterKey.text ++ ':' :: text) := by
      refine Json.readString_iff.2 ⟨l.written, ?_, rfl⟩
      rw [String.toList_ofList]
      exact hw
    have ht : (Key.quoted l).text ++ (afterKey.text ++ ':' :: text)
        = '"' :: (l.written ++ '"' :: (afterKey.text ++ ':' :: text)) := by
      simp [Key.text, Literal.text, hq]
    rw [ht]
    refine Json.bind_eq_ok.2 ⟨_, hs, ?_⟩
    dsimp only
    rw [skipSpace_append afterKey.space, skipSpace_cons (by decide)]
    exact Json.bind_eq_ok.2 ⟨_, h, rfl⟩

/-- A key starts with a quote. -/
theorem Key.Plain.head {k : Key} (h : k.Plain) : ∃ more, k.text = '"' :: more := by
  cases k with
  | bare n => exact h.elim
  | quoted l =>
    have hq : l.quote = '"' := h
    exact ⟨l.written ++ [l.quote], by simp [Key.text, Literal.text, hq]⟩

/-! ## Reading trees -/

/-- White space in front of a plain tree is skipped. -/
theorem Tree.Plain.skipSpace {t : Tree} (h : t.Plain) (space : Space) (rest : List Char) :
    ∃ c more, Json.skipSpace (space.text ++ (t.text ++ rest)) = c :: more
      ∧ t.text ++ rest = c :: more ∧ c ≠ ']' := by
  obtain ⟨c, more, ht, hc, hb⟩ := h.head
  refine ⟨c, more ++ rest, ?_, by rw [ht, List.cons_append], hb⟩
  rw [skipSpace_append space.space, ht, List.cons_append, skipSpace_cons hc]

/-- White space in front of a plain key is skipped. -/
theorem Key.Plain.skipSpace {k : Key} (h : k.Plain) (space : Space) (rest : List Char) :
    ∃ more, Json.skipSpace (space.text ++ (k.text ++ rest)) = '"' :: more
      ∧ k.text ++ rest = '"' :: more := by
  obtain ⟨more, ht⟩ := h.head
  refine ⟨more ++ rest, ?_, by rw [ht, List.cons_append]⟩
  rw [skipSpace_append space.space, ht, List.cons_append, skipSpace_cons (by decide)]

/-- White space in front of other white space. -/
def Space.append (a b : Space) : Space where
  text := a.text ++ b.text
  space := by
    intro c hc
    rcases List.mem_append.1 hc with hc | hc
    · exact a.space c hc
    · exact b.space c hc

theorem length_lt_of_append {front rest : List Char} {c : Char} {fuel : Nat} {text : List Char}
    (h : text = front ++ c :: rest) (hf : text.length < fuel + 1) : rest.length < fuel := by
  have hl := congrArg List.length h
  rw [List.length_append, List.length_cons] at hl
  omega

mutual

/-- The text of a plain tree is read as its value. -/
theorem readValue_tree : ∀ (t : Tree), t.Plain → ∀ (levels : Nat) (rest : List Char),
    t.depth ≤ levels → EndsValue rest → readValue levels (t.text ++ rest) = .ok (t.value, rest)
  | .leaf a, h, levels, rest, _, hr => readValue_leaf a h levels hr
  | .array inner .nil, _, levels, rest, hd, _ => by
      obtain ⟨less, rfl⟩ := Nat.exists_eq_add_of_le' (Nat.le_trans (Nat.le_add_left 1 _) hd)
      have ht : (Tree.array inner .nil).text ++ rest = '[' :: (inner.text ++ ']' :: rest) := by
        simp [Tree.text, Items.text]
      rw [ht, readValue_array, readArray_nil _ (skipSpace_space_cons inner (by decide) rest)]
      rfl
  | .array inner (.cons before value after more), h, levels, rest, hd, hr => by
      obtain ⟨less, rfl⟩ := Nat.exists_eq_add_of_le' (Nat.le_trans (Nat.le_add_left 1 _) hd)
      have hmax : max value.depth more.depth ≤ less := Nat.le_of_succ_le_succ hd
      have hend := endsValue_space after (endsValue_items more
        (endsValue_cons rest (.inr (.inl rfl))))
      have hv := readValue_tree value h.1 less _ (Nat.le_trans (Nat.le_max_left ..) hmax) hend
      have hi := readItems_items more h.2 less _ after rest
        (Nat.le_trans (Nat.le_max_right ..) hmax) (Nat.lt_succ_self _)
      obtain ⟨c, tail, hs, ht, hc⟩ := Tree.Plain.skipSpace h.1 (inner.append before)
        (after.text ++ (more.comma ++ (more.text ++ ']' :: rest)))
      have htext : (Tree.array inner (.cons before value after more)).text ++ rest
          = '[' :: ((inner.append before).text
            ++ (value.text ++ (after.text ++ (more.comma ++ (more.text ++ ']' :: rest))))) := by
        simp [Tree.text, Items.text, Space.append]
      rw [htext, readValue_array, readArray_cons _ hs hc, ← ht]
      exact Json.bind_eq_ok.2 ⟨_, hv, Json.bind_eq_ok.2 ⟨_, hi, rfl⟩⟩
  | .object inner .nil, _, levels, rest, hd, _ => by
      obtain ⟨less, rfl⟩ := Nat.exists_eq_add_of_le' (Nat.le_trans (Nat.le_add_left 1 _) hd)
      have ht : (Tree.object inner .nil).text ++ rest
          = '\x7b' :: (inner.text ++ '\x7d' :: rest) := by
        simp [Tree.text, Members.text]
      rw [ht, readValue_object, readObject_nil _ (skipSpace_space_cons inner (by decide) rest)]
      rfl
  | .object inner (.cons beforeKey key afterKey before value after more), h, levels, rest, hd,
      hr => by
      obtain ⟨less, rfl⟩ := Nat.exists_eq_add_of_le' (Nat.le_trans (Nat.le_add_left 1 _) hd)
      have hmax : max value.depth more.depth ≤ less := Nat.le_of_succ_le_succ hd
      have hend := endsValue_space after (endsValue_members more
        (endsValue_cons rest (.inr (.inr rfl))))
      have hv := readValue_tree value h.2.1 less _ (Nat.le_trans (Nat.le_max_left ..) hmax) hend
      have hm := readMembers_members more h.2.2 less _ after
        (Json.put (String.ofList key.chars) value.value []) rest
        (Nat.le_trans (Nat.le_max_right ..) hmax) (Nat.lt_succ_self _)
      rw [← readValue_space less before] at hv
      have hk := readMember_of_item h.1 afterKey hv
      obtain ⟨tail, hs, ht⟩ := Key.Plain.skipSpace h.1 (inner.append beforeKey)
        (afterKey.text ++ ':' :: (before.text ++ (value.text ++
          (after.text ++ (more.comma ++ (more.text ++ '\x7d' :: rest))))))
      have htext : (Tree.object inner
            (.cons beforeKey key afterKey before value after more)).text ++ rest
          = '\x7b' :: ((inner.append beforeKey).text ++ (key.text ++ (afterKey.text ++ ':' ::
            (before.text ++ (value.text ++
              (after.text ++ (more.comma ++ (more.text ++ '\x7d' :: rest)))))))) := by
        simp [Tree.text, Members.text, Space.append]
      rw [htext, readValue_object, readObject_cons _ hs, ← ht]
      exact Json.bind_eq_ok.2 ⟨_, hk, Json.bind_eq_ok.2 ⟨_, hm, rfl⟩⟩

/-- The other items of an array are read up to its bracket. -/
theorem readItems_items : ∀ (items : Items), items.Plain → ∀ (levels fuel : Nat) (space : Space)
    (rest : List Char), items.depth ≤ levels →
    (space.text ++ (items.comma ++ (items.text ++ ']' :: rest))).length < fuel →
    readItems (readValue levels) fuel (space.text ++ (items.comma ++ (items.text ++ ']' :: rest)))
      = .ok (items.values, rest)
  | .nil, _, levels, fuel, space, rest, _, hf => by
      obtain ⟨fuel, rfl⟩ := Nat.exists_eq_succ_of_ne_zero (Nat.ne_of_gt (Nat.zero_lt_of_lt hf))
      exact readItems_nil _ fuel (skipSpace_space_cons space (by decide) rest)
  | .cons before value after more, h, levels, fuel, space, rest, hd, hf => by
      obtain ⟨fuel, rfl⟩ := Nat.exists_eq_succ_of_ne_zero (Nat.ne_of_gt (Nat.zero_lt_of_lt hf))
      have hend := endsValue_space after (endsValue_items more
        (endsValue_cons rest (.inr (.inl rfl))))
      have hv := readValue_tree value h.1 levels _ (Nat.le_trans (Nat.le_max_left ..) hd) hend
      have htext : space.text ++ ((Items.cons before value after more).comma
            ++ ((Items.cons before value after more).text ++ ']' :: rest))
          = space.text ++ ',' :: (before.text
            ++ (value.text ++ (after.text ++ (more.comma ++ (more.text ++ ']' :: rest))))) := by
        simp [Items.text, Items.comma]
      rw [htext] at hf ⊢
      have hlt := length_lt_of_append rfl hf
      simp only [List.length_append] at hlt
      have hi := readItems_items more h.2 levels fuel after rest
        (Nat.le_trans (Nat.le_max_right ..) hd) (by simp only [List.length_append]; omega)
      obtain ⟨c, tail, hs, ht, hc⟩ := Tree.Plain.skipSpace h.1 before
        (after.text ++ (more.comma ++ (more.text ++ ']' :: rest)))
      rw [readItems_cons _ fuel (skipSpace_space_cons space (by decide) _) hs hc, ← ht]
      exact Json.bind_eq_ok.2 ⟨_, hv, Json.bind_eq_ok.2 ⟨_, hi, rfl⟩⟩

/-- The other members of an object are read up to its brace. -/
theorem readMembers_members : ∀ (members : Members), members.Plain → ∀ (levels fuel : Nat)
    (space : Space) (read : JsonMembers) (rest : List Char), members.depth ≤ levels →
    (space.text ++ (members.comma ++ (members.text ++ '\x7d' :: rest))).length < fuel →
    readMembers (readValue levels) fuel read
        (space.text ++ (members.comma ++ (members.text ++ '\x7d' :: rest)))
      = .ok (members.values.foldl (fun all m => Json.put m.1 m.2 all) read, rest)
  | .nil, _, levels, fuel, space, read, rest, _, hf => by
      obtain ⟨fuel, rfl⟩ := Nat.exists_eq_succ_of_ne_zero (Nat.ne_of_gt (Nat.zero_lt_of_lt hf))
      exact readMembers_nil _ fuel read (skipSpace_space_cons space (by decide) rest)
  | .cons beforeKey key afterKey before value after more, h, levels, fuel, space, read, rest, hd,
      hf => by
      obtain ⟨fuel, rfl⟩ := Nat.exists_eq_succ_of_ne_zero (Nat.ne_of_gt (Nat.zero_lt_of_lt hf))
      have hend := endsValue_space after (endsValue_members more
        (endsValue_cons rest (.inr (.inr rfl))))
      have hv := readValue_tree value h.2.1 levels _ (Nat.le_trans (Nat.le_max_left ..) hd) hend
      rw [← readValue_space levels before] at hv
      have hk := readMember_of_item h.1 afterKey hv
      have htext : space.text
            ++ ((Members.cons beforeKey key afterKey before value after more).comma
              ++ ((Members.cons beforeKey key afterKey before value after more).text
                ++ '\x7d' :: rest))
          = space.text ++ ',' :: (beforeKey.text ++ (key.text ++ (afterKey.text ++ ':' ::
            (before.text ++ (value.text ++
              (after.text ++ (more.comma ++ (more.text ++ '\x7d' :: rest)))))))) := by
        simp [Members.text, Members.comma]
      rw [htext] at hf ⊢
      have hlt := length_lt_of_append rfl hf
      simp only [List.length_append, List.length_cons] at hlt
      have hm := readMembers_members more h.2.2 levels fuel after
        (Json.put (String.ofList key.chars) value.value read) rest
        (Nat.le_trans (Nat.le_max_right ..) hd)
        (by simp only [List.length_append, List.length_cons]; omega)
      obtain ⟨tail, hs, ht⟩ := Key.Plain.skipSpace h.1 beforeKey
        (afterKey.text ++ ':' :: (before.text ++ (value.text ++
          (after.text ++ (more.comma ++ (more.text ++ '\x7d' :: rest))))))
      rw [readMembers_cons _ fuel read (skipSpace_space_cons space (by decide) _), hs, ← ht]
      exact Json.bind_eq_ok.2 ⟨_, hk, hm⟩

end

/-! ## What is read is a tree -/

/-- A text starts with the text of a plain tree. -/
def StartsWithTree (levels : Nat) (text : List Char) (v : Json) (rest : List Char) : Prop :=
  ∃ (space : Space) (t : Tree), text = space.text ++ (t.text ++ rest) ∧ t.Plain ∧ t.value = v
    ∧ t.depth ≤ levels

/-- What a reader of items is shown to read. -/
def Sound (levels : Nat) (item : Json.Reader Json) : Prop :=
  ∀ text v rest, item text = .ok (v, rest) → StartsWithTree levels text v rest

variable {levels : Nat} {item : Json.Reader Json}

/-- The other items, with the bracket behind them. -/
theorem exists_items_of_readItems (hitem : Sound levels item) {fuel : Nat}
    {text rest : List Char} {vs : List Json} (h : readItems item fuel text = .ok (vs, rest)) :
    ∃ (space : Space) (items : Items),
      text = space.text ++ (items.comma ++ (items.text ++ ']' :: rest)) ∧ items.Plain
        ∧ items.values = vs ∧ items.depth ≤ levels := by
  induction fuel generalizing text vs with
  | zero => simp [readItems, Json.failBefore] at h
  | succ fuel ih =>
    obtain ⟨space, hspace⟩ := exists_eq_append_skipSpace text
    unfold readItems at h
    split at h
    · simp [Json.failBefore] at h
    · rename_i heq
      simp only [Except.ok.injEq, Prod.mk.injEq] at h
      obtain ⟨rfl, rfl⟩ := h
      exact ⟨space, .nil, by rw [hspace, heq]; rfl, trivial, rfl, Nat.zero_le _⟩
    · rename_i text' heq
      obtain ⟨space', hspace'⟩ := exists_eq_append_skipSpace text'
      split at h
      · simp [Json.failBefore] at h
      · simp [Json.failAt] at h
      · obtain ⟨⟨x, after⟩, h₁, h₂⟩ := Json.bind_eq_ok.1 h
        obtain ⟨⟨xs, after'⟩, h₃, h₄⟩ := Json.bind_eq_ok.1 h₂
        simp only [Except.ok.injEq, Prod.mk.injEq] at h₄
        obtain ⟨rfl, rfl⟩ := h₄
        obtain ⟨before, t, ht, hp, rfl, hd⟩ := hitem _ _ _ h₁
        obtain ⟨behind, items, hi, hps, rfl, hds⟩ := ih h₃
        refine ⟨space, .cons (space'.append before) t behind items, ?_, ⟨hp, hps⟩, rfl,
          Nat.max_le.2 ⟨hd, hds⟩⟩
        rw [hspace, heq, hspace', ht, hi]
        simp [Items.text, Items.comma, Space.append]
    · simp [Json.failAt] at h

theorem exists_tree_of_readArray (hitem : Sound levels item) {text rest : List Char} {v : Json}
    (h : readArray item text = .ok (v, rest)) :
    ∃ (inner : Space) (items : Items), text = inner.text ++ (items.text ++ ']' :: rest)
      ∧ items.Plain ∧ .array items.values = v ∧ items.depth ≤ levels := by
  obtain ⟨space, hspace⟩ := exists_eq_append_skipSpace text
  unfold readArray at h
  split at h
  · simp [Json.failBefore] at h
  · rename_i heq
    simp only [Except.ok.injEq, Prod.mk.injEq] at h
    obtain ⟨rfl, rfl⟩ := h
    exact ⟨space, .nil, by rw [hspace, heq]; rfl, trivial, rfl, Nat.zero_le _⟩
  · obtain ⟨⟨x, after⟩, h₁, h₂⟩ := Json.bind_eq_ok.1 h
    obtain ⟨⟨xs, after'⟩, h₃, h₄⟩ := Json.bind_eq_ok.1 h₂
    simp only [Except.ok.injEq, Prod.mk.injEq] at h₄
    obtain ⟨rfl, rfl⟩ := h₄
    obtain ⟨before, t, ht, hp, rfl, hd⟩ := hitem _ _ _ h₁
    obtain ⟨behind, items, hi, hps, rfl, hds⟩ := exists_items_of_readItems hitem h₃
    refine ⟨space, .cons before t behind items, ?_, ⟨hp, hps⟩, rfl, Nat.max_le.2 ⟨hd, hds⟩⟩
    rw [hspace, ht, hi]
    simp [Items.text]

/-- A key, a colon and what the value is read from. -/
theorem exists_key_of_readMember {text rest : List Char} {k : String} {v : Json}
    (h : readMember item text = .ok ((k, v), rest)) :
    ∃ (key : Key) (afterKey : Space) (text' : List Char),
      text = key.text ++ (afterKey.text ++ ':' :: text') ∧ key.Plain
        ∧ String.ofList key.chars = k ∧ item text' = .ok (v, rest) := by
  unfold readMember at h
  split at h
  · rename_i text₀
    obtain ⟨⟨s, after⟩, h₁, h₂⟩ := Json.bind_eq_ok.1 h
    obtain ⟨w, hw, rfl⟩ := Json.readString_iff.1 h₁
    obtain ⟨afterKey, hspace⟩ := exists_eq_append_skipSpace after
    dsimp only at h₂
    split at h₂
    · simp [Json.failBefore] at h₂
    · rename_i text' heq
      obtain ⟨⟨v', rest'⟩, h₃, h₄⟩ := Json.bind_eq_ok.1 h₂
      simp only [Except.ok.injEq, Prod.mk.injEq] at h₄
      obtain ⟨⟨rfl, rfl⟩, rfl⟩ := h₄
      refine ⟨.quoted ⟨'"', w, s.toList, by decide, hw⟩, afterKey, text', ?_, rfl, ?_, h₃⟩
      · rw [heq] at hspace
        simp [Key.text, Literal.text, ← hspace]
      · simp [Key.chars]
    · simp [Json.failAt] at h₂
  · simp [Json.failBefore] at h
  · simp [Json.failAt] at h
  · simp [Json.failAt] at h

/-- The other members, with the brace behind them. -/
theorem exists_members_of_readMembers (hitem : Sound levels item) {fuel : Nat}
    {text rest : List Char} {read ms : JsonMembers}
    (h : readMembers item fuel read text = .ok (ms, rest)) :
    ∃ (space : Space) (members : Members),
      text = space.text ++ (members.comma ++ (members.text ++ '\x7d' :: rest)) ∧ members.Plain
        ∧ members.values.foldl (fun all m => Json.put m.1 m.2 all) read = ms
        ∧ members.depth ≤ levels := by
  induction fuel generalizing text read with
  | zero => simp [readMembers, Json.failBefore] at h
  | succ fuel ih =>
    obtain ⟨space, hspace⟩ := exists_eq_append_skipSpace text
    unfold readMembers at h
    split at h
    · simp [Json.failBefore] at h
    · rename_i heq
      simp only [Except.ok.injEq, Prod.mk.injEq] at h
      obtain ⟨rfl, rfl⟩ := h
      exact ⟨space, .nil, by rw [hspace, heq]; rfl, trivial, rfl, Nat.zero_le _⟩
    · rename_i text' heq
      obtain ⟨beforeKey, hspace'⟩ := exists_eq_append_skipSpace text'
      obtain ⟨⟨⟨k, v⟩, after⟩, h₁, h₂⟩ := Json.bind_eq_ok.1 h
      obtain ⟨key, afterKey, text'', hk, hkp, rfl, hv⟩ := exists_key_of_readMember h₁
      obtain ⟨before, t, ht, hp, rfl, hd⟩ := hitem _ _ _ hv
      obtain ⟨behind, members, hm, hps, hms, hds⟩ := ih h₂
      refine ⟨space, .cons beforeKey key afterKey before t behind members, ?_, ⟨hkp, hp, hps⟩, hms,
        Nat.max_le.2 ⟨hd, hds⟩⟩
      rw [hspace, heq, hspace', hk, ht, hm]
      simp [Members.text, Members.comma]
    · simp [Json.failAt] at h

theorem exists_tree_of_readObject (hitem : Sound levels item) {text rest : List Char} {v : Json}
    (h : readObject item text = .ok (v, rest)) :
    ∃ (inner : Space) (members : Members), text = inner.text ++ (members.text ++ '\x7d' :: rest)
      ∧ members.Plain ∧ .object (merge members.values) = v ∧ members.depth ≤ levels := by
  obtain ⟨space, hspace⟩ := exists_eq_append_skipSpace text
  unfold readObject at h
  split at h
  · simp [Json.failBefore] at h
  · rename_i heq
    simp only [Except.ok.injEq, Prod.mk.injEq] at h
    obtain ⟨rfl, rfl⟩ := h
    exact ⟨space, .nil, by rw [hspace, heq]; rfl, trivial, rfl, Nat.zero_le _⟩
  · obtain ⟨⟨⟨k, v⟩, after⟩, h₁, h₂⟩ := Json.bind_eq_ok.1 h
    obtain ⟨⟨ms, after'⟩, h₃, h₄⟩ := Json.bind_eq_ok.1 h₂
    simp only [Except.ok.injEq, Prod.mk.injEq] at h₄
    obtain ⟨rfl, rfl⟩ := h₄
    obtain ⟨key, afterKey, text', hk, hkp, rfl, hv⟩ := exists_key_of_readMember h₁
    obtain ⟨before, t, ht, hp, rfl, hd⟩ := hitem _ _ _ hv
    obtain ⟨behind, members, hm, hps, hms, hds⟩ := exists_members_of_readMembers hitem h₃
    refine ⟨space, .cons ⟨[], by simp⟩ key afterKey before t behind members, ?_, ⟨hkp, hp, hps⟩, ?_,
      Nat.max_le.2 ⟨hd, hds⟩⟩
    · rw [hspace, hk, ht, hm]
      simp [Members.text]
    · rw [← hms]
      rfl

/-- What the reader reads is the text of a plain tree. -/
theorem exists_tree_of_readValue (levels : Nat) : Sound levels (readValue levels) := by
  -- the recursion of the reader is over the levels that are left
  induction levels with
  | zero =>
    intro text v rest h
    obtain ⟨space, hspace⟩ := exists_eq_append_skipSpace text
    have hr := reads_of_readValue h
    generalize skipSpace text = next at hr hspace
    cases hr with
    | null => exact ⟨space, .leaf .null, hspace, trivial, rfl, Nat.le_refl _⟩
    | @bool b => exact ⟨space, .leaf (.bool b), hspace, trivial, rfl, Nat.le_refl _⟩
    | @string l _ hq => exact ⟨space, .leaf (.string l), hspace, hq, rfl, Nat.le_refl _⟩
    | number hn =>
      obtain ⟨n, rfl, rfl⟩ := hn.exists_number
      exact ⟨space, .leaf (.number n), hspace, trivial, rfl, Nat.le_refl _⟩
    | array he => cases he
    | object he => cases he
  | succ levels ih =>
    intro text v rest h
    obtain ⟨space, hspace⟩ := exists_eq_append_skipSpace text
    have hr := reads_of_readValue h
    generalize skipSpace text = next at hr hspace
    cases hr with
    | null => exact ⟨space, .leaf .null, hspace, trivial, rfl, Nat.zero_le _⟩
    | @bool b => exact ⟨space, .leaf (.bool b), hspace, trivial, rfl, Nat.zero_le _⟩
    | @string l _ hq => exact ⟨space, .leaf (.string l), hspace, hq, rfl, Nat.zero_le _⟩
    | number hn =>
      obtain ⟨n, rfl, rfl⟩ := hn.exists_number
      exact ⟨space, .leaf (.number n), hspace, trivial, rfl, Nat.zero_le _⟩
    | array he hr =>
      cases he
      obtain ⟨inner, items, rfl, hp, rfl, hd⟩ := exists_tree_of_readArray ih hr
      refine ⟨space, .array inner items, ?_, hp, rfl, Nat.succ_le_succ hd⟩
      rw [hspace]
      simp [Tree.text]
    | object he hr =>
      cases he
      obtain ⟨inner, members, rfl, hp, rfl, hd⟩ := exists_tree_of_readObject ih hr
      refine ⟨space, .object inner members, ?_, hp, rfl, Nat.succ_le_succ hd⟩
      rw [hspace]
      simp [Tree.text]

end ShellQuery.Spelling
