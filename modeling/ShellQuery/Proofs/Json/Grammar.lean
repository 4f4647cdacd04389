import ShellQuery.Number.Decimal
import ShellQuery.Proofs.Json.Number

/-!
# The grammar of JSON

The texts that are JSON by its grammar alone: no bound on nesting, no range of numbers,
and an escape may be half of a surrogate pair.  The reader refuses some of these texts.
`Derives` says what a text may be a part of JSON as.

The reader takes digits for the number that they stand for, as far as it fits
(`readNumber_whole`).
-/

namespace ShellQuery.Json

/-! ## Numbers -/

/-- Decimal digits, one at least. -/
def IsDigits (text : List Char) : Prop := text ≠ [] ∧ ∀ c ∈ text, c.isDigit = true

/-- The digits in front of the point.  No zero starts more than one of them. -/
inductive IsWhole : List Char → Prop where
  /-- Zero. -/
  | zero : IsWhole ['0']
  /-- Any other number. -/
  | digits {c : Char} {more : List Char} : c ≠ '0' → c.isDigit = true →
      (∀ d ∈ more, d.isDigit = true) → IsWhole (c :: more)

/-- A fraction, which may be left out. -/
inductive IsFraction : List Char → Prop where
  /-- No fraction. -/
  | none : IsFraction []
  /-- A point and digits. -/
  | some {digits : List Char} : IsDigits digits → IsFraction ('.' :: digits)

/-- An exponent, which may be left out. -/
inductive IsExponent : List Char → Prop where
  /-- No exponent. -/
  | none : IsExponent []
  /-- A letter, a sign if there is one, and digits. -/
  | some {e : Char} {sign digits : List Char} : e = 'e' ∨ e = 'E' →
      sign ∈ [[], ['+'], ['-']] → IsDigits digits → IsExponent (e :: (sign ++ digits))

/-- A number. -/
inductive IsNumeral : List Char → Prop where
  /-- A minus sign if there is one, and the three parts. -/
  | parts {sign whole fraction exponent : List Char} : sign ∈ [[], ['-']] → IsWhole whole →
      IsFraction fraction → IsExponent exponent →
      IsNumeral (sign ++ (whole ++ (fraction ++ exponent)))

/-! ## Strings -/

/-- What follows the opening quote of a string, with the closing quote. -/
inductive IsStringBody : List Char → Prop where
  /-- The closing quote. -/
  | close : IsStringBody ['"']
  /-- A character that stands for itself. -/
  | plain {c : Char} {body : List Char} : c ≠ '"' → c ≠ '\\' → 0x20 ≤ c.toNat →
      IsStringBody body → IsStringBody (c :: body)
  /-- A backslash and one character. -/
  | escape {c : Char} {body : List Char} : c ∈ ['"', '\\', '/', 'b', 'f', 'n', 'r', 't'] →
      IsStringBody body → IsStringBody ('\\' :: c :: body)
  /-- A backslash, a letter and four hexadecimal digits. -/
  | unit {digits body : List Char} : digits.length = 4 →
      (∀ c ∈ digits, (Text.hexDigit? c).isSome = true) → IsStringBody body →
      IsStringBody ('\\' :: 'u' :: (digits ++ body))

/-! ## Values -/

/-- What a text may be in JSON. -/
inductive Part where
  /-- A value. -/
  | value
  /-- A value between white space: a whole JSON text. -/
  | text
  /-- JSON texts with commas between them, one at least. -/
  | texts
  /-- A key, a colon and a JSON text. -/
  | member
  /-- Members with commas between them, one at least. -/
  | members

/-- White space. -/
def IsSpaces (text : List Char) : Prop := ∀ c ∈ text, isSpace c = true

/-- A text is a part of JSON. -/
inductive Derives : Part → List Char → Prop where
  /-- A word. -/
  | word {w : List Char} : w ∈ ["null".toList, "true".toList, "false".toList] → Derives .value w
  /-- A number. -/
  | number {numeral : List Char} : IsNumeral numeral → Derives .value numeral
  /-- A string. -/
  | string {body : List Char} : IsStringBody body → Derives .value ('"' :: body)
  /-- An array without items. -/
  | emptyArray {space : List Char} : IsSpaces space → Derives .value ('[' :: (space ++ [']']))
  /-- An array. -/
  | array {items : List Char} : Derives .texts items → Derives .value ('[' :: (items ++ [']']))
  /-- An object without members. -/
  | emptyObject {space : List Char} : IsSpaces space →
      Derives .value ('\x7b' :: (space ++ ['\x7d']))
  /-- An object. -/
  | object {members : List Char} : Derives .members members →
      Derives .value ('\x7b' :: (members ++ ['\x7d']))
  /-- White space around a value. -/
  | text {before value after : List Char} : IsSpaces before → Derives .value value →
      IsSpaces after → Derives .text (before ++ (value ++ after))
  /-- One JSON text. -/
  | lastText {text : List Char} : Derives .text text → Derives .texts text
  /-- A JSON text and more of them. -/
  | moreTexts {text texts : List Char} : Derives .text text → Derives .texts texts →
      Derives .texts (text ++ ',' :: texts)
  /-- White space around a string, a colon and a JSON text. -/
  | member {before key after text : List Char} : IsSpaces before → IsStringBody key →
      IsSpaces after → Derives .text text →
      Derives .member (before ++ '"' :: (key ++ (after ++ ':' :: text)))
  /-- One member. -/
  | lastMember {member : List Char} : Derives .member member → Derives .members member
  /-- A member and more of them. -/
  | moreMembers {member members : List Char} : Derives .member member →
      Derives .members members → Derives .members (member ++ ',' :: members)

/-! ## The characters of numbers -/

theorem IsDigits.chars {text : List Char} (h : IsDigits text) :
    ∀ c ∈ text, isNumberChar c = true :=
  fun c hc => isNumberChar_of_isDigit (h.2 c hc)

theorem IsWhole.chars {text : List Char} (h : IsWhole text) :
    ∀ c ∈ text, isNumberChar c = true := by
  cases h with
  | zero => exact List.forall_mem_singleton.2 rfl
  | digits _ hc hmore =>
    exact List.forall_mem_cons.2
      ⟨isNumberChar_of_isDigit hc, fun d hd => isNumberChar_of_isDigit (hmore d hd)⟩

theorem IsFraction.chars {text : List Char} (h : IsFraction text) :
    ∀ c ∈ text, isNumberChar c = true := by
  cases h with
  | none => exact nofun
  | some hdigits => exact List.forall_mem_cons.2 ⟨rfl, hdigits.chars⟩

theorem IsExponent.chars {text : List Char} (h : IsExponent text) :
    ∀ c ∈ text, isNumberChar c = true := by
  cases h with
  | none => exact nofun
  | @some e sign digits he hsign hdigits =>
    have hletter : isNumberChar e = true := by rcases he with rfl | rfl <;> rfl
    have hall : ∀ s ∈ [[], ['+'], ['-']], s.all isNumberChar = true := by decide
    exact List.forall_mem_cons.2 ⟨hletter,
      List.forall_mem_append.2 ⟨List.all_eq_true.1 (hall sign hsign), hdigits.chars⟩⟩

/-- A numeral holds no other characters than the reader takes for a number. -/
theorem IsNumeral.chars {text : List Char} (h : IsNumeral text) :
    ∀ c ∈ text, isNumberChar c = true := by
  obtain @⟨sign, _, _, _, hsign, hwhole, hfraction, hexponent⟩ := h
  have hall : ∀ s ∈ [[], ['-']], s.all isNumberChar = true := by decide
  exact List.forall_mem_append.2 ⟨List.all_eq_true.1 (hall sign hsign),
    List.forall_mem_append.2 ⟨hwhole.chars,
      List.forall_mem_append.2 ⟨hfraction.chars, hexponent.chars⟩⟩⟩

/-! ## The value of digits -/

theorem le_foldl_digits (s : Nat) (digits : List Char) :
    s ≤ digits.foldl (fun n c => n * 10 + digitValue c) s := by
  induction digits generalizing s with
  | nil => exact Nat.le_refl s
  | cons c rest ih =>
    have hnext : s ≤ s * 10 + digitValue c := by omega
    exact Nat.le_trans hnext (ih _)

/-- All digits are taken if their value fits. -/
theorem takeDigits_eq {s : Nat} {digits : List Char} (hd : ∀ c ∈ digits, c.isDigit = true)
    (hfit : digits.foldl (fun n c => n * 10 + digitValue c) s ≤ significandMax) :
    takeDigits 0 s 0 digits
      = ⟨digits.foldl (fun n c => n * 10 + digitValue c) s, 0, []⟩ := by
  induction digits generalizing s with
  | nil => rfl
  | cons c rest ih =>
    rw [List.forall_mem_cons] at hd
    rw [List.foldl_cons] at hfit ⊢
    have hnext : s * 10 + digitValue c ≤ significandMax :=
      Nat.le_trans (le_foldl_digits _ rest) hfit
    rw [takeDigits, hd.1, decide_eq_true hnext]
    exact ih hd.2 hfit

/-- The digits of a whole number are read as the number that they stand for. -/
theorem readNumber_whole (negative : Bool) {text rest : List Char} (h : IsWhole text)
    (hfit : Decimal.digitsValue text ≤ significandMax) (hr : EndsNumber rest) :
    readNumber negative (text ++ rest)
      = readNumberEnd.integer negative (Decimal.digitsValue text) rest := by
  cases h with
  | zero =>
    rw [List.singleton_append, readNumber_zero negative (noDigit_of_endsNumber hr),
      readNumberEnd_integer negative 0 hr.head]
    rfl
  | @digits c more h0 hc hmore =>
    have hvalue : Decimal.digitsValue (c :: more)
        = more.foldl (fun n c => n * 10 + digitValue c) (digitValue c) := by
      rw [Decimal.digitsValue, List.foldl_cons, Nat.zero_mul, Nat.zero_add]
      rfl
    rw [hvalue] at hfit ⊢
    rw [readNumber_append negative h0 hc (noDigit_of_endsNumber hr), takeDigits_eq hmore hfit]
    exact readNumberEnd_integer negative _ hr.head

end ShellQuery.Json
