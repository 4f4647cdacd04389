import ShellQuery.Text.Blank

/-!
# Identifiers

An identifier starts with a letter, `_` or `$`, and goes on with letters, digits,
`_` and `$`.  Only ASCII letters and digits count: a name with any other
character has to be quoted.
-/

namespace ShellQuery.Text

/-- Whether an identifier may start with this character. -/
def isIdentStart (c : Char) : Bool := c.isAlpha || c == '_' || c == '$'

/-- Whether an identifier may go on with this character. -/
def isIdentChar (c : Char) : Bool := c.isAlphanum || c == '_' || c == '$'

/-- The longest identifier at the start of a text, and the text after it. -/
def readIdent? : List Char → Option (List Char × List Char)
  | [] => none
  | c :: rest =>
      if isIdentStart c then some (c :: rest.takeWhile isIdentChar, rest.dropWhile isIdentChar)
      else none

/-- The text after one character, if the text starts with it. -/
def expectChar? (c : Char) : List Char → Option (List Char)
  | [] => none
  | d :: rest => if d = c then some rest else none

/-- The text after a word, if the text starts with it. -/
def dropWord? : List Char → List Char → Option (List Char)
  | [], text => some text
  | _ :: _, [] => none
  | w :: word, c :: rest => if w = c then dropWord? word rest else none

theorem dropWord?_eq_some {word text rest : List Char} :
    dropWord? word text = some rest ↔ text = word ++ rest := by
  induction word generalizing text with
  | nil => simp [dropWord?]
  | cons w word ih =>
    cases text with
    | nil => simp [dropWord?]
    | cons c more => grind [dropWord?]

theorem readIdent?_append {text ident rest : List Char}
    (h : readIdent? text = some (ident, rest)) : ident ++ rest = text := by
  cases text with
  | nil => simp [readIdent?] at h
  | cons c r =>
    simp only [readIdent?, Option.ite_none_right_eq_some, Option.some.injEq, Prod.mk.injEq] at h
    obtain ⟨_, rfl, rfl⟩ := h
    simp

theorem readIdent?_ne_nil {text ident rest : List Char}
    (h : readIdent? text = some (ident, rest)) : ident ≠ [] := by
  cases text with
  | nil => simp [readIdent?] at h
  | cons c r =>
    simp only [readIdent?, Option.ite_none_right_eq_some, Option.some.injEq, Prod.mk.injEq] at h
    obtain ⟨_, rfl, rfl⟩ := h
    simp

theorem readIdent?_length_lt {text ident rest : List Char}
    (h : readIdent? text = some (ident, rest)) : rest.length < text.length := by
  have ha := congrArg List.length (readIdent?_append h)
  have hn := List.length_pos_iff.2 (readIdent?_ne_nil h)
  simp only [List.length_append] at ha
  omega

theorem expectChar?_eq_some {c : Char} {text rest : List Char} :
    expectChar? c text = some rest ↔ text = c :: rest := by
  cases text with
  | nil => simp [expectChar?]
  | cons d r => simp [expectChar?, Option.ite_none_right_eq_some]

/-- An identifier is read up to the first character that does not go on with it. -/
theorem readIdent?_append_eq {c : Char} {tail rest : List Char} (hc : isIdentStart c = true)
    (ht : ∀ d ∈ tail, isIdentChar d = true) (hr : ∀ d ∈ rest.head?, isIdentChar d = false) :
    readIdent? (c :: tail ++ rest) = some (c :: tail, rest) := by
  have htake : rest.takeWhile isIdentChar = [] := by
    cases rest with
    | nil => rfl
    | cons d more => simp [hr d rfl]
  have hdrop : rest.dropWhile isIdentChar = rest := by
    cases rest with
    | nil => rfl
    | cons d more => simp [hr d rfl]
  rw [List.cons_append, readIdent?, if_pos hc, List.takeWhile_append_of_pos ht,
    List.dropWhile_append_of_pos ht, htake, hdrop, List.append_nil]

theorem isIdentChar_of_isIdentStart {c : Char} (h : isIdentStart c = true) :
    isIdentChar c = true := by
  simp only [isIdentStart, isIdentChar, Char.isAlphanum, Bool.or_eq_true] at h ⊢
  rcases h with (h | h) | h
  · exact .inl (.inl (.inl h))
  · exact .inl (.inr h)
  · exact .inr h

/-- The characters of identifiers by their codes. -/
theorem isIdentChar_iff {c : Char} : isIdentChar c = true ↔
    (65 ≤ c.toNat ∧ c.toNat ≤ 90) ∨ (97 ≤ c.toNat ∧ c.toNat ≤ 122)
      ∨ (48 ≤ c.toNat ∧ c.toNat ≤ 57) ∨ c = '_' ∨ c = '$' := by
  have hranges : isIdentChar c = ((((decide (65 ≤ c.val ∧ c.val ≤ 90)
      || (decide (97 ≤ c.val) && decide (c.val ≤ 122)))
      || (decide (48 ≤ c.val) && decide (c.val ≤ 57))) || c == '_') || c == '$') := rfl
  rw [hranges]
  simp only [Bool.or_eq_true, Bool.and_eq_true, decide_eq_true_eq, beq_iff_eq,
    UInt32.le_iff_toNat_le, or_assoc]
  exact Iff.rfl

/-- No identifier goes on with a blank. -/
theorem isIdentChar_of_isBlank {c : Char} (h : isBlank c = true) : isIdentChar c = false := by
  cases hc : isIdentChar c with
  | false => rfl
  | true =>
    simp only [isBlank, Bool.or_eq_true, Bool.and_eq_true, decide_eq_true_eq, beq_iff_eq] at h
    rcases isIdentChar_iff.1 hc with hc | hc | hc | rfl | rfl
    · omega
    · omega
    · omega
    · simp at h
    · simp at h

/-- No identifier goes on with a control character. -/
theorem le_toNat_of_isIdentChar {c : Char} (h : isIdentChar c = true) : 0x20 ≤ c.toNat := by
  rcases isIdentChar_iff.1 h with h | h | h | rfl | rfl
  · omega
  · omega
  · omega
  · decide
  · decide

example : readIdent? "$gt: 1".toList = some ("$gt".toList, ": 1".toList) := by decide
example : readIdent? "1abc".toList = none := by decide

end ShellQuery.Text
