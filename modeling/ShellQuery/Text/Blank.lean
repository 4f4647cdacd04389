/-!
# Blank characters

A character is *blank* when it has the property White_Space.  Every place that
skips space or trims a text goes by this one property.  The zero width space and
the byte order mark do not have it.

`skipBlank` drops the blanks at the start of a text, and `trim` those at both
ends.  `trim_trim` says that trimming twice changes nothing more.
-/

namespace ShellQuery.Text

/-- Whether a character has the property White_Space. -/
def isBlank (c : Char) : Bool :=
  let n := c.toNat
  (0x9 ≤ n && n ≤ 0xD) || n == 0x20 || n == 0x85 || n == 0xA0 || n == 0x1680
    || (0x2000 ≤ n && n ≤ 0x200A) || n == 0x2028 || n == 0x2029 || n == 0x202F || n == 0x205F
    || n == 0x3000

/-- A text without the blanks at its start. -/
def skipBlank (text : List Char) : List Char := text.dropWhile isBlank

/-- A text without the blanks at its end. -/
def trimEnd (text : List Char) : List Char := (text.reverse.dropWhile isBlank).reverse

/-- A text without the blanks at its two ends. -/
def trim (text : List Char) : List Char := trimEnd (skipBlank text)

/-- A string without the blanks at its two ends. -/
def trimString (s : String) : String := String.ofList (trim s.toList)

@[simp] theorem skipBlank_nil : skipBlank [] = [] := rfl

theorem skipBlank_length_le (text : List Char) : (skipBlank text).length ≤ text.length := by
  simpa [skipBlank] using (List.dropWhile_sublist isBlank (l := text)).length_le

theorem skipBlank_skipBlank (text : List Char) : skipBlank (skipBlank text) = skipBlank text := by
  induction text with
  | nil => rfl
  | cons c r ih =>
    by_cases h : isBlank c = true
    · simp only [skipBlank, List.dropWhile_cons, h, if_true] at ih ⊢
      exact ih
    · simp [skipBlank, h]

/-- What is left starts with no blank. -/
theorem isBlank_of_skipBlank_eq_cons {text rest : List Char} {c : Char}
    (h : skipBlank text = c :: rest) : isBlank c = false := by
  have hh := List.head?_dropWhile_not isBlank text
  rw [← skipBlank, h] at hh
  simpa using hh

/-- Blanks in front of a text are skipped. -/
theorem skipBlank_append {blanks : List Char} (h : ∀ c ∈ blanks, isBlank c = true)
    (text : List Char) : skipBlank (blanks ++ text) = skipBlank text := by
  induction blanks with
  | nil => rfl
  | cons c rest ih =>
    simp only [List.mem_cons, forall_eq_or_imp] at h
    simpa [skipBlank, h.1] using ih h.2

/-- A text that starts with no blank stays as it is. -/
theorem skipBlank_cons {c : Char} (h : isBlank c = false) (rest : List Char) :
    skipBlank (c :: rest) = c :: rest := by
  simp [skipBlank, h]

/-- A text is its blanks at the end after the rest. -/
theorem exists_eq_trimEnd_append (text : List Char) :
    ∃ blanks, text = trimEnd text ++ blanks ∧ ∀ c ∈ blanks, isBlank c = true := by
  refine ⟨(text.reverse.takeWhile isBlank).reverse, ?_, ?_⟩
  · rw [trimEnd, ← List.reverse_append, List.takeWhile_append_dropWhile, List.reverse_reverse]
  · intro c hc
    exact List.all_eq_true.1 List.all_takeWhile c (List.mem_reverse.1 hc)

/-- A text is its blanks at the start before the rest. -/
theorem exists_eq_append_skipBlank (text : List Char) :
    ∃ blanks, text = blanks ++ skipBlank text ∧ ∀ c ∈ blanks, isBlank c = true :=
  ⟨text.takeWhile isBlank, (List.takeWhile_append_dropWhile).symm,
    fun c hc => List.all_eq_true.1 List.all_takeWhile c hc⟩

/-- Blanks behind a text are trimmed. -/
theorem trimEnd_append {blanks : List Char} (h : ∀ c ∈ blanks, isBlank c = true)
    (text : List Char) : trimEnd (text ++ blanks) = trimEnd text := by
  have hr : ∀ c ∈ blanks.reverse, isBlank c = true := fun c hc => h c (List.mem_reverse.1 hc)
  have hs := skipBlank_append hr text.reverse
  rw [trimEnd, trimEnd, List.reverse_append]
  exact congrArg List.reverse hs

/-- A text that ends with no blank stays as it is. -/
theorem trimEnd_concat {c : Char} (h : isBlank c = false) (text : List Char) :
    trimEnd (text ++ [c]) = text ++ [c] := by
  simp [trimEnd, h]

theorem trimEnd_trimEnd (text : List Char) : trimEnd (trimEnd text) = trimEnd text := by
  have h := skipBlank_skipBlank text.reverse
  simpa [trimEnd, skipBlank] using congrArg List.reverse h

/-- Trimming the end keeps a text that starts with no blank that way. -/
theorem skipBlank_trimEnd_skipBlank (text : List Char) :
    skipBlank (trimEnd (skipBlank text)) = trimEnd (skipBlank text) := by
  obtain ⟨blanks, hb, _⟩ := exists_eq_trimEnd_append (skipBlank text)
  cases ht : trimEnd (skipBlank text) with
  | nil => rfl
  | cons c rest =>
    rw [ht, List.cons_append] at hb
    have hc := isBlank_of_skipBlank_eq_cons hb
    exact skipBlank_cons hc rest

theorem trim_trim (text : List Char) : trim (trim text) = trim text := by
  rw [trim, trim, skipBlank_trimEnd_skipBlank, trimEnd_trimEnd]

/-- Blanks around a text are trimmed. -/
theorem trim_append_append {before after : List Char} (hb : ∀ c ∈ before, isBlank c = true)
    (ha : ∀ c ∈ after, isBlank c = true) (text : List Char) :
    trim (before ++ text ++ after) = trim text := by
  obtain ⟨blanks, ht, _⟩ := exists_eq_append_skipBlank text
  rw [trim, trim, List.append_assoc, skipBlank_append hb]
  cases hs : skipBlank text with
  | nil =>
    have hbl : ∀ c ∈ text ++ after, isBlank c = true := by
      intro c hc
      rcases List.mem_append.1 hc with h | h
      · rw [ht, hs, List.append_nil] at h
        simp_all
      · exact ha c h
    have h0 := skipBlank_append hbl []
    rw [List.append_nil, skipBlank_nil] at h0
    rw [h0]
  | cons c rest =>
    have hd : skipBlank (text ++ after) = skipBlank text ++ after := by
      rw [skipBlank, List.dropWhile_append, ← skipBlank, hs]
      rfl
    rw [hd, trimEnd_append ha, hs]

example : trim " a b\u00a0".toList = "a b".toList := by decide
example : isBlank '\u200b' = false ∧ isBlank '\ufeff' = false := by decide

end ShellQuery.Text
