import Mathlib.Data.Nat.Digits.Defs
import ShellQuery.Calendar.Layout
import ShellQuery.Proofs.Calendar.Days
import ShellQuery.Proofs.Number.Digits

/-!
# Written instants read back

An instant from 1970 through 9999 is written as a date and a time with a zone.  The
reader of dates finds the instant again: `read?_instantText`.  Each number in the
text has its fixed count of digits, so the reader of each takes that number and leaves
what is behind it.
-/

namespace ShellQuery

open ShellQuery.Text

/-! ## Numbers with zeros in front -/

namespace Decimal

theorem foldl_eq (start : Nat) (digits : List Char) :
    digits.foldl (fun n c => n * 10 + (c.toNat - '0'.toNat)) start
      = start * 10 ^ digits.length + digitsValue digits := by
  induction digits generalizing start with
  | nil => simp [digitsValue]
  | cons c rest ih =>
    rw [digitsValue, List.foldl_cons, List.foldl_cons, ih, ih (0 * 10 + _), List.length_cons,
      Nat.pow_succ', Nat.zero_mul, Nat.zero_add, Nat.add_mul, Nat.mul_assoc, Nat.add_assoc]

theorem digitsValue_append (digits more : List Char) :
    digitsValue (digits ++ more) = digitsValue digits * 10 ^ more.length + digitsValue more := by
  rw [digitsValue, List.foldl_append, foldl_eq]
  rfl

theorem digitsValue_zeros (count : Nat) : digitsValue (List.replicate count '0') = 0 := by
  induction count with
  | zero => rfl
  | succ count ih => exact ih

end Decimal

open ShellQuery.Decimal (digitsValue digitsValue_append digitsValue_zeros)

theorem length_paddedText {width n : Nat} (hw : 0 < width) (h : n < 10 ^ width) :
    (paddedText width n).length = width := by
  have hle : (natText n).length ≤ width := Nat.toDigits_length 10 n width hw h
  rw [paddedText, List.length_append, List.length_replicate]
  omega

theorem paddedText_ne_nil (width n : Nat) : paddedText width n ≠ [] :=
  List.append_ne_nil_of_right_ne_nil _ (natText_ne_nil n)

theorem isDigit_of_mem_paddedText {width n : Nat} {c : Char} (h : c ∈ paddedText width n) :
    c.isDigit = true := by
  rcases List.mem_append.1 h with hzero | hdigit
  · rw [List.eq_of_mem_replicate hzero]
    rfl
  · exact isDigit_of_mem_natText hdigit

theorem digitsValue_paddedText (width n : Nat) : digitsValue (paddedText width n) = n := by
  rw [paddedText, digitsValue_append, digitsValue_zeros, digitsValue_natText, Nat.zero_mul,
    Nat.zero_add]

namespace DateText

/-- A number written with a count of digits is read with that count of digits. -/
theorem readExact?_paddedText {width n : Nat} (hw : 0 < width) (h : n < 10 ^ width)
    (rest : List Char) : readExact? width (paddedText width n ++ rest) = some (n, rest) := by
  have hlength := length_paddedText hw h
  have htake : (paddedText width n ++ rest).take width = paddedText width n := by
    rw [List.take_append_of_le_length (by omega), List.take_of_length_le (by omega)]
  have hdrop : (paddedText width n ++ rest).drop width = rest := by
    rw [List.drop_append_of_le_length (by omega), List.drop_of_length_le (by omega),
      List.nil_append]
  have hdigits : (paddedText width n).all Char.isDigit = true :=
    List.all_eq_true.2 fun _ hc => isDigit_of_mem_paddedText hc
  rw [readExact?, htake, hdrop, hlength, hdigits, digitsValue_paddedText]
  simp

theorem isBlank_of_isDigit {c : Char} (h : c.isDigit = true) : isBlank c = false := by
  cases hb : isBlank c with
  | false => rfl
  | true =>
    have hident := isIdentChar_of_isBlank hb
    rw [isIdentChar, Char.isAlphanum, h, Bool.or_true] at hident
    cases hident

/-! ## Fractions -/

theorem exists_paddedText_eq (n : Nat) :
    ∃ zeros, paddedText 3 n = thousandthsText n ++ List.replicate zeros '0' := by
  have hzero : ∀ c ∈ (paddedText 3 n).reverse.takeWhile (· == '0'), c = '0' := fun c hc => by
    simpa using List.all_eq_true.1 List.all_takeWhile c hc
  obtain ⟨zeros, hz⟩ : ∃ zeros, (paddedText 3 n).reverse.takeWhile (· == '0')
      = List.replicate zeros '0' := ⟨_, List.eq_replicate_of_mem hzero⟩
  refine ⟨zeros, ?_⟩
  have h := List.takeWhile_append_dropWhile (p := (· == '0')) (l := (paddedText 3 n).reverse)
  rw [hz] at h
  rw [thousandthsText, ← List.reverse_replicate, ← List.reverse_append, h, List.reverse_reverse]

/-- The zeros that a fraction leaves out are put back. -/
theorem readFraction?_thousandthsText {n : Nat} (h0 : n ≠ 0) (h1 : n < 1000) (rest : List Char) :
    readFraction? ('.' :: thousandthsText n ++ 'Z' :: rest) = some (n * 1000000, 'Z' :: rest) := by
  obtain ⟨zeros, hz⟩ := exists_paddedText_eq n
  have hlength : (thousandthsText n).length + zeros = 3 := by
    have h : (paddedText 3 n).length = 3 := length_paddedText (by decide) h1
    rwa [hz, List.length_append, List.length_replicate] at h
  have hvalue : digitsValue (thousandthsText n) * 10 ^ zeros = n := by
    have h := digitsValue_paddedText 3 n
    rwa [hz, digitsValue_append, digitsValue_zeros, List.length_replicate, Nat.add_zero] at h
  have hdigit : ∀ c ∈ thousandthsText n, c.isDigit = true := fun c hc =>
    isDigit_of_mem_paddedText (hz ▸ List.mem_append_left _ hc)
  have hne : thousandthsText n ≠ [] := by
    intro hnil
    rw [hnil] at hvalue
    exact h0 (by rw [← hvalue, digitsValue, List.foldl_nil, Nat.zero_mul])
  generalize thousandthsText n = digits at *
  have htake : (digits ++ 'Z' :: rest).takeWhile Char.isDigit = digits := by
    rw [List.takeWhile_append_of_pos hdigit, List.takeWhile_cons_of_neg (by decide),
      List.append_nil]
  have hdrop : (digits ++ 'Z' :: rest).dropWhile Char.isDigit = 'Z' :: rest := by
    rw [List.dropWhile_append_of_pos hdigit, List.dropWhile_cons_of_neg (by decide)]
  have hshort : digits.take 9 = digits := List.take_of_length_le (by omega)
  have hscale : digitsValue digits * Nat.pow 10 (9 - digits.length) = n * 1000000 := by
    have hnine : 9 - digits.length = zeros + 6 := by omega
    rw [hnine, Nat.pow_eq, Nat.pow_add, ← Nat.mul_assoc, hvalue]
  have hempty : digits.isEmpty = false := List.isEmpty_eq_false_iff.2 hne
  simp only [List.cons_append, readFraction?, htake, hdrop, hshort, hscale, hempty,
    Bool.false_eq_true, if_false]

/-! ## Instants -/

/-- The fraction of an instant is read, also if none is written. -/
theorem readFraction?_fraction {n : Nat} (h : n < 1000) (rest : List Char) :
    readFraction? ((if n = 0 then [] else '.' :: thousandthsText n) ++ 'Z' :: rest)
      = some (n * 1000000, 'Z' :: rest) := by
  by_cases h0 : n = 0
  · subst h0
    rfl
  · rw [if_neg h0]
    exact readFraction?_thousandthsText h0 h rest

/-- A date and a time in UTC, each number with its count of digits, and thousandths. -/
theorem readZoned?_parts {year month day hour minute second f : Nat}
    (hdate : Date.valid ⟨year, month, day⟩ = true) (hyear : year < 10000)
    (hmonth : month < 100) (hday : day < 100) (hhour : hour < 24)
    (hminute : minute < 60) (hsecond : second < 60) (hf : f < 1000) :
    readZoned? (paddedText 4 year ++ '-' :: paddedText 2 month ++ '-' :: paddedText 2 day
        ++ 'T' :: paddedText 2 hour ++ ':' :: paddedText 2 minute ++ ':' :: paddedText 2 second
        ++ (if f = 0 then [] else '.' :: thousandthsText f) ++ ['Z'])
      = some (Instant.ofDateTime ⟨year, month, day⟩ ⟨hour, minute, second, f * 1000000⟩) := by
  have htime : validTime ⟨hour, minute, second, f * 1000000⟩ = true := by
    simp only [validTime, Bool.and_eq_true, decide_eq_true_eq]
    omega
  simp only [List.append_assoc, List.cons_append]
  refine Option.bind_eq_some_iff.2 ⟨_, readExact?_paddedText (by decide) hyear _, ?_⟩
  refine Option.bind_eq_some_iff.2 ⟨_, expectChar?_eq_some.2 rfl, ?_⟩
  refine Option.bind_eq_some_iff.2 ⟨_, readExact?_paddedText (by decide) hmonth _, ?_⟩
  refine Option.bind_eq_some_iff.2 ⟨_, expectChar?_eq_some.2 rfl, ?_⟩
  refine Option.bind_eq_some_iff.2 ⟨_, readExact?_paddedText (by decide) hday _, ?_⟩
  refine Option.bind_eq_some_iff.2 ⟨paddedText 2 hour ++ _, rfl, ?_⟩
  refine Option.bind_eq_some_iff.2 ⟨_, readExact?_paddedText (by decide) (by omega) _, ?_⟩
  refine Option.bind_eq_some_iff.2 ⟨_, expectChar?_eq_some.2 rfl, ?_⟩
  refine Option.bind_eq_some_iff.2 ⟨_, readExact?_paddedText (by decide) (by omega) _, ?_⟩
  refine Option.bind_eq_some_iff.2 ⟨_, expectChar?_eq_some.2 rfl, ?_⟩
  refine Option.bind_eq_some_iff.2 ⟨_, readExact?_paddedText (by decide) (by omega) _, ?_⟩
  refine Option.bind_eq_some_iff.2 ⟨_, readFraction?_fraction hf [], ?_⟩
  refine Option.bind_eq_some_iff.2 ⟨(0, []), rfl, ?_⟩
  simp [hdate, htime]

/-- The text of an instant is read as the instant. -/
theorem readZoned?_instantText {n : Int} (h0 : 0 ≤ n) (h1 : n < 253402300800000) :
    readZoned? (instantText n) = some ⟨n / 1000, (n % 1000).toNat * 1000000⟩ := by
  have hdays := Date.toDays_ofDays (n / 1000 / Instant.secondsPerDay)
  obtain ⟨hvalid, hyear0, hyear1⟩ :=
    Date.valid_ofDays (by omega : 0 ≤ n / 1000 / 86400) (by omega)
  rw [instantText]
  simp only [Instant.secondsPerDay] at hdays ⊢
  generalize Date.ofDays (n / 1000 / 86400) = d at *
  obtain ⟨hmonth, hday⟩ := Date.le_of_valid hvalid
  obtain ⟨year, month, day⟩ := d
  obtain ⟨y, rfl⟩ := Int.eq_ofNat_of_zero_le hyear0
  generalize hs : (n / 1000 % 86400).toNat = s
  simp only at hmonth hday hyear1
  refine (readZoned?_parts hvalid (by omega) (by omega) (by omega) (by omega) (by omega) (by omega)
    (by omega)).trans (congrArg some ?_)
  have hleap : ¬ s % 60 = 60 := by omega
  rw [Instant.ofDateTime, hdays]
  simp only [if_neg hleap, Instant.secondsPerDay, Instant.mk.injEq, and_true]
  omega

/-- The text of an instant starts with a digit and ends with the letter of the zone. -/
theorem exists_instantText_eq (n : Int) :
    ∃ c rest, c.isDigit = true ∧ instantText n = c :: rest ++ ['Z'] := by
  rw [instantText]
  generalize Date.ofDays (n / 1000 / Instant.secondsPerDay) = d
  cases hyear : paddedText 4 d.year.toNat with
  | nil => exact absurd hyear (paddedText_ne_nil _ _)
  | cons c digits =>
    have hc : c.isDigit = true := by
      refine isDigit_of_mem_paddedText (n := d.year.toNat) (?_ : c ∈ paddedText 4 _)
      rw [hyear]
      exact List.mem_cons_self ..
    exact ⟨c, _, hc, rfl⟩

theorem trim_instantText (n : Int) : trim (instantText n) = instantText n := by
  obtain ⟨c, rest, hc, h⟩ := exists_instantText_eq n
  rw [h, trim, List.cons_append, skipBlank_cons (isBlank_of_isDigit hc), ← List.cons_append]
  exact trimEnd_concat (by decide) _

theorem instantText_ne_now (n : Int) : String.ofList (instantText n) ≠ "now" := by
  obtain ⟨c, rest, hc, h⟩ := exists_instantText_eq n
  intro hnow
  have hchars : c :: rest ++ ['Z'] = ['n', 'o', 'w'] := by
    rw [← h, ← String.toList_ofList (l := instantText n), hnow]
    rfl
  rw [(List.cons.inj hchars).1] at hc
  exact absurd hc (by decide)

/-- An instant from 1970 through 9999 is found again in its text. -/
theorem read?_instantText {n : Int} (h0 : 0 ≤ n) (h1 : n < 253402300800000) :
    (read? (instantText n)).map Instant.millis = some n := by
  rw [read?, trim_instantText, readZoned?_instantText h0 h1]
  simp only [Option.some_or, Option.map_some, Instant.millis, Option.some.injEq]
  omega

end DateText

end ShellQuery
