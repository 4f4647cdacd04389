import ShellQuery.Proofs.Calendar.Forms

/-!
# Every documented form is read

The reader tries the form with a zone, the layouts one after the other, and milliseconds.
A text in one of the documented forms is passed over by everything that is tried before its
own form: the form with a zone needs a zone, and a layout has to name the marks of the text.
One layout with the same marks is left, year, month and day with slashes, before the one with
the month first.  It runs out of layout before the year is read to its end.

`read?_writes` puts this together.
-/

namespace ShellQuery

open ShellQuery.Text
open ShellQuery.Decimal (digitsValue)

namespace DateText

variable {d : Date} {mark : Char} {h m s n : Nat}

/-! ## The layouts before it -/

@[simp] theorem marks_nil : marks [] = [] := rfl

theorem marks_cons (c : Char) (text : List Char) :
    marks (c :: text) = if isMark c then c :: marks text else marks text :=
  List.filter_cons

@[simp] theorem marks_paddedText (width n : Nat) : marks (paddedText width n) = [] :=
  List.filter_eq_nil_iff.2 fun _ hc => by simp [isMark_of_isDigit (isDigit_of_mem_paddedText hc)]

theorem marks_yearFirstText (c : Char) (d : Date) : marks (yearFirstText c d) = marks [c, c] := by
  cases hc : isMark c <;> simp [yearFirstText, marks_append, marks_cons, hc]

@[simp] theorem marks_minuteText (h m : Nat) : marks (minuteText h m) = [':'] := by
  simp [minuteText, marks_append, marks_cons, isMark]

@[simp] theorem marks_secondText (h m s : Nat) : marks (secondText h m s) = [':', ':'] := by
  simp [secondText, marks_append, marks_cons, isMark]

@[simp] theorem marks_fraction {fraction : List Char} (h : IsFraction fraction n) :
    marks fraction = [] := by
  cases h with
  | absent => rfl
  | digits hne hdigits =>
    exact (Unmarked.cons (by decide)
      ⟨_, (List.append_nil _).symm, fun c hc => isMark_of_isDigit (hdigits c hc)⟩).marks_eq

/-- A layout that looks for a year finds the month of a text with the month first, and is
left with two digits. -/
theorem read?_slashes_monthFirst (hd : d.FourDigits) :
    (yearFirst '/').read? (Style.monthFirst.text d) = none := by
  obtain ⟨hyear, -, hmonth, hday⟩ := hd.bounds
  have hmonthLength : (paddedText 2 d.month).length = 2 := length_paddedText (by decide) hmonth
  have hyearLength : (paddedText 4 d.year.toNat).length = 4 := length_paddedText (by decide) hyear
  have hfirst := fun rest => @readYear?_digits (paddedText 2 d.month) ('/' :: rest)
    (paddedText_ne_nil 2 _) (fun _ => isDigit_of_mem_paddedText) (by omega) (.inr (by simp))
  have hlast : readTwo? (paddedText 4 d.year.toNat)
      = some (digitsValue ((paddedText 4 d.year.toNat).take 2),
          (paddedText 4 d.year.toNat).drop 2) := by
    have h := @readTwo?_digits ((paddedText 4 d.year.toNat).take 2)
      ((paddedText 4 d.year.toNat).drop 2)
      (fun _ hc => isDigit_of_mem_paddedText (List.mem_of_mem_take hc))
      (by rw [List.length_take, hyearLength]; rfl)
    rwa [List.take_append_drop] at h
  simp [Layout.read?, Style.text, yearFirst, readItems?, Item.read?, expectChar?, hfirst,
    readTwo?_paddedText hday, hlast, hyearLength]

/-- The separator of a style with the year first. -/
def Style.separator : Style → Char
  | dashes => '-'
  | slashes | monthFirst => '/'

theorem Joins.text_eq {style : Style} (h : Joins style mark) :
    style.text d = yearFirstText style.separator d := by
  cases style with
  | dashes | slashes => rfl
  | monthFirst => cases h

theorem Joins.blank_or_letter {style : Style} (h : Joins style mark) : mark = ' ' ∨ mark = 'T' := by
  cases style with
  | dashes => exact h
  | slashes => exact .inl h
  | monthFirst => cases h

theorem layouts_midnight (style : Style) (hd : d.FourDigits) :
    (layouts.findSome? fun l => l.read? (style.text d)) = some (Instant.utc d ⟨0, 0, 0, 0⟩) := by
  cases style with
  | dashes =>
    exact findSome?_layouts_of_marks 6 rfl (read?_date hd '-') (marks_yearFirstText '-' d)
      (by decide)
  | slashes =>
    exact findSome?_layouts_of_marks 7 rfl (read?_date hd '/') (marks_yearFirstText '/' d)
      (by decide)
  | monthFirst =>
    refine findSome?_layouts 8 rfl (read?_monthFirst hd) fun l hl hmarks => ?_
    -- Only the layout that is the same with the year first has these marks too.
    have hsame : ∀ l ∈ layouts.take 8, l.marks = ['/', '/'] → l = yearFirst '/' := by decide
    have hslashes : marks (Style.monthFirst.text d) = ['/', '/'] := by
      simp [Style.text, marks_append, marks_cons, isMark]
    rw [hsame l hl (hmarks.trans hslashes)]
    exact read?_slashes_monthFirst hd

theorem layouts_minute {style : Style} (hd : d.FourDigits) (hjoins : Joins style mark)
    (hh : h < 24) (hm : m < 60) :
    (layouts.findSome? fun l => l.read? (style.text d ++ mark :: minuteText h m))
      = some (Instant.utc d ⟨h, m, 0, 0⟩) := by
  have hread := read?_minute hd style.separator hjoins.blank_or_letter hh hm
  have hmarks : marks (yearFirstText style.separator d ++ mark :: minuteText h m)
      = marks ([style.separator, style.separator] ++ ([mark] ++ [':'])) := by
    rw [← List.singleton_append, marks_append, marks_append, marks_yearFirstText,
      marks_minuteText, marks_append, marks_append]
    rfl
  rw [hjoins.text_eq]
  cases style with
  | dashes =>
    rcases hjoins with rfl | rfl
    · exact findSome?_layouts_of_marks 3 rfl hread hmarks (by decide)
    · exact findSome?_layouts_of_marks 1 rfl hread hmarks (by decide)
  | slashes =>
    cases hjoins
    exact findSome?_layouts_of_marks 5 rfl hread hmarks (by decide)
  | monthFirst => cases hjoins

theorem layouts_second {style : Style} {fraction : List Char} (hd : d.FourDigits)
    (hjoins : Joins style mark) (hh : h < 24) (hm : m < 60) (hs : s ≤ 60)
    (hfraction : IsFraction fraction n) (hslashes : style = .slashes → fraction = []) :
    (layouts.findSome? fun l => l.read? (style.text d ++ mark :: secondText h m s ++ fraction))
      = some (Instant.utc d ⟨h, m, s, n⟩) := by
  have hmarks : marks (yearFirstText style.separator d ++ mark :: secondText h m s ++ fraction)
      = marks ([style.separator, style.separator] ++ ([mark] ++ [':', ':'])) := by
    rw [← List.singleton_append, marks_append, marks_append, marks_append, marks_yearFirstText,
      marks_secondText, marks_fraction hfraction, List.append_nil, marks_append, marks_append]
    rfl
  rw [hjoins.text_eq]
  cases style with
  | dashes =>
    have hread := read?_second hd '-' hjoins hh hm hs (readItems?_fraction hfraction _)
    rcases hjoins with rfl | rfl
    · exact findSome?_layouts_of_marks 2 rfl hread hmarks (by decide)
    · exact findSome?_layouts_of_marks 0 rfl hread hmarks (by decide)
  | slashes =>
    cases hjoins
    obtain rfl := hslashes rfl
    cases hfraction
    exact findSome?_layouts_of_marks 4 rfl (read?_second hd '/' (.inl rfl) hh hm hs rfl) hmarks
      (by decide)
  | monthFirst => cases hjoins

/-! ## The form with a zone -/

theorem readExact?_four {n : Nat} (h : n < 10000) (rest : List Char) :
    readExact? 4 (paddedText 4 n ++ rest) = some (n, rest) :=
  readExact?_paddedText (by decide) h rest

/-- What is no digit ends the digits that have to be there. -/
theorem readExact?_eq_none {count : Nat} {text : List Char} {c : Char} (hc : c ∈ text.take count)
    (hdigit : c.isDigit = false) : readExact? count text = none := by
  have hall : (text.take count).all Char.isDigit = false :=
    List.all_eq_false.2 ⟨c, hc, by simp [hdigit]⟩
  simp [readExact?, hall]

/-- The reader goes on with what a step has read. -/
theorem bind_of_eq_some {α β : Type} {x : Option α} {a : α} (h : x = some a) (f : α → Option β) :
    (x >>= f) = f a := by
  rw [h]
  rfl

/-- The reader stops where a step reads nothing. -/
theorem bind_of_eq_none {α β : Type} {x : Option α} (h : x = none) (f : α → Option β) :
    (x >>= f) = none := by
  rw [h]
  rfl

/-- Reads a time and a zone behind a date. -/
def readClock? (d : Date) (text : List Char) : Option Instant := do
  let (hour, text) ← readExact? 2 text
  let (minute, text) ← readExact? 2 (← expectChar? ':' text)
  let (second, text) ← readExact? 2 (← expectChar? ':' text)
  let (nanos, text) ← readFraction? text
  let (zone, text) ← readZone? text
  let time : TimeOfDay := ⟨hour, minute, second, nanos⟩
  if text.isEmpty && d.valid && validTime time then
    let i := Instant.ofDateTime d time
    pure { i with seconds := i.seconds - zone }
  else none

/-- Behind a date with dashes the reader looks for a time. -/
theorem readZoned?_date (hd : d.FourDigits) (tail : List Char) :
    readZoned? (yearFirstText '-' d ++ tail)
      = (readZoned?.afterSeparator? tail).bind (readClock? d) := by
  obtain ⟨hyear, hcast, hmonth, hday⟩ := hd.bounds
  rw [readZoned?, yearFirstText]
  simp only [List.append_assoc, List.cons_append]
  refine (bind_of_eq_some (readExact?_four hyear _) _).trans ?_
  refine (bind_of_eq_some (expectChar?_eq_some.2 rfl) _).trans ?_
  refine (bind_of_eq_some (readExact?_two hmonth _) _).trans ?_
  refine (bind_of_eq_some (expectChar?_eq_some.2 rfl) _).trans ?_
  refine (bind_of_eq_some (readExact?_two hday _) _).trans ?_
  simp only [hcast]
  rfl

theorem readClock?_minute (hh : h < 24) (hm : m < 60) : readClock? d (minuteText h m) = none := by
  refine (bind_of_eq_some (readExact?_two (show h < 100 by omega) _) _).trans ?_
  refine (bind_of_eq_some (expectChar?_eq_some.2 rfl) _).trans ?_
  exact bind_of_eq_some (readExact?_last (show m < 100 by omega)) _

/-- Behind the seconds there is a fraction, and a zone has to be there. -/
theorem readClock?_second (hd : d.FourDigits) (hh : h < 24) (hm : m < 60) (hs : s ≤ 60)
    {fraction zone : List Char} (hfraction : IsFraction fraction n)
    (hzone : ∀ c ∈ zone.head?, c ≠ '.' ∧ c.isDigit = false) :
    readClock? d (secondText h m s ++ fraction ++ zone)
      = (readZone? zone).bind fun (east, rest) =>
          if rest.isEmpty then
            some { Instant.utc d ⟨h, m, s, n⟩ with
              seconds := (Instant.utc d ⟨h, m, s, n⟩).seconds - east }
          else none := by
  have htime : validTime ⟨h, m, s, n⟩ = true := by simp [validTime, hh, hm, hs]
  rw [secondText, minuteText]
  simp only [List.append_assoc, List.cons_append]
  refine (bind_of_eq_some (readExact?_two (show h < 100 by omega) _) _).trans ?_
  refine (bind_of_eq_some (expectChar?_eq_some.2 rfl) _).trans ?_
  refine (bind_of_eq_some (readExact?_two (show m < 100 by omega) _) _).trans ?_
  refine (bind_of_eq_some (expectChar?_eq_some.2 rfl) _).trans ?_
  refine (bind_of_eq_some (readExact?_two (show s < 100 by omega) _) _).trans ?_
  refine (bind_of_eq_some (readFraction?_of_isFraction hfraction hzone) _).trans ?_
  simp [hd.valid, htime, @ofDateTime_eq_utc d hd ⟨h, m, s, n⟩ hs]

theorem readZoned?_slashes (hd : d.FourDigits) (tail : List Char) :
    readZoned? (yearFirstText '/' d ++ tail) = none := by
  rw [readZoned?, yearFirstText]
  simp only [List.append_assoc, List.cons_append]
  exact (bind_of_eq_some (readExact?_four hd.bounds.1 _) _).trans (bind_of_eq_none rfl _)

theorem readZoned?_monthFirst (hd : d.FourDigits) :
    readZoned? (Style.monthFirst.text d) = none := by
  have hlength : (paddedText 2 d.month).length = 2 := length_paddedText (by decide) hd.bounds.2.2.1
  have hslash : '/' ∈ (Style.monthFirst.text d).take 4 := by
    simp [Style.text, List.take_append, hlength]
  exact bind_of_eq_none (readExact?_eq_none hslash (by decide)) _

/-- The form with a zone is not a date alone, and not a date with a time. -/
theorem readZoned?_midnight (style : Style) (hd : d.FourDigits) :
    readZoned? (style.text d) = none := by
  cases style with
  | dashes =>
    have h := readZoned?_date hd []
    rwa [List.append_nil] at h
  | slashes =>
    have h := readZoned?_slashes hd []
    rwa [List.append_nil] at h
  | monthFirst => exact readZoned?_monthFirst hd

theorem afterSeparator?_cons (hmark : mark = 'T' ∨ mark = 't' ∨ mark = ' ') (tail : List Char) :
    readZoned?.afterSeparator? (mark :: tail) = some tail := by
  rcases hmark with rfl | rfl | rfl <;> rfl

theorem readZoned?_minute {style : Style} (hd : d.FourDigits) (hjoins : Joins style mark)
    (hh : h < 24) (hm : m < 60) : readZoned? (style.text d ++ mark :: minuteText h m) = none := by
  cases style with
  | dashes =>
    have hmark : mark = 'T' ∨ mark = 't' ∨ mark = ' ' := hjoins.elim (.inr ∘ .inr) .inl
    rw [Style.text, readZoned?_date hd, afterSeparator?_cons hmark]
    exact readClock?_minute hh hm
  | slashes => exact readZoned?_slashes hd _
  | monthFirst => cases hjoins

theorem readZoned?_second {style : Style} {fraction : List Char} (hd : d.FourDigits)
    (hjoins : Joins style mark) (hh : h < 24) (hm : m < 60) (hs : s ≤ 60)
    (hfraction : IsFraction fraction n) :
    readZoned? (style.text d ++ mark :: secondText h m s ++ fraction) = none := by
  rw [List.append_assoc, List.cons_append]
  cases style with
  | dashes =>
    have hmark : mark = 'T' ∨ mark = 't' ∨ mark = ' ' := hjoins.elim (.inr ∘ .inr) .inl
    have hclock := @readClock?_second d h m s n hd hh hm hs fraction [] hfraction (by simp)
    rw [List.append_nil] at hclock
    rw [Style.text, readZoned?_date hd, afterSeparator?_cons hmark, Option.bind_some, hclock]
    rfl
  | slashes => exact readZoned?_slashes hd _
  | monthFirst => cases hjoins

theorem readZoned?_zoned {fraction zone : List Char} {east : Int} (hd : d.FourDigits)
    (hmark : mark = 'T' ∨ mark = 't' ∨ mark = ' ') (hh : h < 24) (hm : m < 60) (hs : s ≤ 60)
    (hfraction : IsFraction fraction n) (hzone : IsZone zone east) :
    readZoned? (Style.dashes.text d ++ mark :: secondText h m s ++ fraction ++ zone)
      = some { Instant.utc d ⟨h, m, s, n⟩ with
          seconds := (Instant.utc d ⟨h, m, s, n⟩).seconds - east } := by
  rw [List.append_assoc, List.append_assoc, List.cons_append, ← List.append_assoc, Style.text,
    readZoned?_date hd, afterSeparator?_cons hmark, Option.bind_some,
    readClock?_second hd hh hm hs hfraction (head?_of_isZone hzone), readZone?_of_isZone hzone]
  rfl

/-! ## Milliseconds -/

theorem expectChar?_digits {digits : List Char} (hdigits : ∀ c ∈ digits, c.isDigit = true)
    {c : Char} (hc : c.isDigit = false) : expectChar? c digits = none := by
  cases hread : expectChar? c digits with
  | none => rfl
  | some rest =>
    have hmem : c ∈ digits := by rw [expectChar?_eq_some.1 hread]; exact List.mem_cons_self ..
    rw [hdigits c hmem] at hc
    cases hc

theorem readZoned?_intText (n : Int) : readZoned? (intText n) = none := by
  rw [intText]
  split
  next => exact bind_of_eq_none (readExact?_eq_none (List.mem_cons_self ..) (by decide)) _
  next =>
    have hrest : ∀ c ∈ (natText n.natAbs).drop 4, c.isDigit = true := fun c hc =>
      isDigit_of_mem_natText (List.mem_of_mem_drop hc)
    cases hread : readExact? 4 (natText n.natAbs) with
    | none => exact bind_of_eq_none hread _
    | some found =>
      obtain ⟨year, rest⟩ := found
      obtain rfl : (natText n.natAbs).drop 4 = rest := by
        rw [readExact?] at hread
        split at hread
        · exact (Prod.mk.inj (Option.some.inj hread)).2
        · cases hread
      exact (bind_of_eq_some hread _).trans
        (bind_of_eq_none (expectChar?_digits hrest (by decide)) _)

theorem marks_intText (n : Int) : marks (intText n) = [] := by
  have hdigits : marks (natText n.natAbs) = [] := List.filter_eq_nil_iff.2 fun _ hc => by
    simp [isMark_of_isDigit (isDigit_of_mem_natText hc)]
  rw [intText]
  split
  · rw [marks_cons, hdigits]
    rfl
  · exact hdigits

/-- A year is all that can be read of an integer: digits are left, if anything is. -/
theorem readYear?_intText (n : Int) :
    ∃ year digits, readYear? (skipBlank (intText n)) = some (year, digits)
      ∧ ∀ c ∈ digits, c.isDigit = true := by
  have hdigits : ∀ c ∈ natText n.natAbs, c.isDigit = true := fun _ => isDigit_of_mem_natText
  have hne := natText_ne_nil n.natAbs
  rw [intText]
  generalize natText n.natAbs = digits at hdigits hne
  split
  next =>
    have hdrop := @List.dropWhile_append_of_pos _ Char.isDigit digits [] hdigits
    have htake := @List.takeWhile_append_of_pos _ Char.isDigit digits [] hdigits
    rw [List.append_nil] at hdrop htake
    rw [List.takeWhile_nil, List.append_nil] at htake
    refine ⟨-(digitsValue digits : Int), [], ?_, by simp⟩
    rw [skipBlank_cons (by decide), readYear?, readAllDigits?, htake, hdrop,
      List.isEmpty_eq_false_iff.2 hne]
    rfl
  next =>
    have hfour : digits.take 4 ≠ [] := by simpa using hne
    have hread := @readYear?_digits (digits.take 4) (digits.drop 4) hfour
      (fun c hc => hdigits c (List.mem_of_mem_take hc)) (List.length_take_le 4 digits) (by
        by_cases hlong : 4 ≤ digits.length
        · exact .inl (by rw [List.length_take]; omega)
        · rw [List.drop_of_length_le (by omega)]
          exact .inr (by simp))
    rw [List.take_append_drop] at hread
    exact ⟨_, _, hread, fun c hc => hdigits c (List.mem_of_mem_drop hc)⟩

theorem read?_intText_yearFirst (n : Int) : (yearFirst '-').read? (intText n) = none := by
  obtain ⟨year, digits, hread, hdigits⟩ := readYear?_intText n
  simp [Layout.read?, yearFirst, readItems?, Item.read?, hread,
    expectChar?_digits hdigits (show '-'.isDigit = false by decide)]

/-- No layout reads an integer. -/
theorem layouts_intText (n : Int) : (layouts.findSome? fun l => l.read? (intText n)) = none := by
  rw [List.findSome?_eq_none_iff]
  intro l hl
  -- The date with dashes alone names no mark.
  have hdashes : ∀ l ∈ layouts, l.marks = [] → l = yearFirst '-' := by decide
  cases hread : l.read? (intText n) with
  | none => rfl
  | some i =>
    have hmarks := (Layout.marks_eq_of_read? hread).symm.trans (marks_intText n)
    rw [hdashes l hl hmarks, read?_intText_yearFirst] at hread
    exact hread.symm

theorem readInt64?_intText {n : Int} (h0 : Instant.firstMillis ≤ n) (h1 : n ≤ Instant.lastMillis) :
    ((readInt64? (intText n)).bind fun m => Instant.ofMillis? m.toInt)
      = some ⟨n / 1000, (n % 1000).toNat * 1000000⟩ := by
  have hwidth : -9223372036854775808 ≤ n ∧ n ≤ 9223372036854775807 := by
    rw [Instant.firstMillis] at h0
    rw [Instant.lastMillis] at h1
    omega
  have hread : readInt64? (intText n) = some (Int64.ofInt n) := by
    rw [readInt64?, Decimal.integer?_intText, Option.bind_some, if_pos (Width.isInt64_iff.2 hwidth)]
  have hdays : Date.minDays ≤ n / 1000 / Instant.secondsPerDay
      ∧ n / 1000 / Instant.secondsPerDay ≤ Date.maxDays := by
    rw [Instant.firstMillis_eq] at h0
    rw [Instant.lastMillis_eq] at h1
    rw [Instant.secondsPerDay]
    omega
  rw [hread, Option.bind_some, Int64.toInt_ofInt_of_le hwidth.1 (by omega), Instant.ofMillis?]
  simp [hdays]

/-! ## Blanks around a text -/

/-- A text that neither starts nor ends with a blank. -/
structure Solid (text : List Char) : Prop where
  first : ∃ c more, text = c :: more ∧ isBlank c = false
  last : ∃ more c, text = more ++ [c] ∧ isBlank c = false

namespace Solid

theorem trim_eq {text : List Char} (ht : Solid text) : trim text = text := by
  obtain ⟨c, more, hfirst, hc⟩ := ht.first
  obtain ⟨front, e, hlast, he⟩ := ht.last
  rw [trim, hfirst, skipBlank_cons hc, ← hfirst, hlast]
  exact trimEnd_concat he front

theorem append {text more : List Char} (ht : Solid text) (hmore : Solid more) :
    Solid (text ++ more) := by
  obtain ⟨c, rest, rfl, hc⟩ := ht.first
  obtain ⟨front, e, rfl, he⟩ := hmore.last
  exact ⟨⟨c, _, rfl, hc⟩, ⟨_, e, (List.append_assoc ..).symm, he⟩⟩

theorem join {text more : List Char} (ht : Solid text) (hmore : Solid more) (c : Char) :
    Solid (text ++ c :: more) := by
  obtain ⟨d, rest, rfl, hd⟩ := ht.first
  obtain ⟨front, e, rfl, he⟩ := hmore.last
  exact ⟨⟨d, _, rfl, hd⟩, ⟨(d :: rest) ++ c :: front, e, by simp, he⟩⟩

theorem singleton {c : Char} (hc : isBlank c = false) : Solid [c] :=
  ⟨⟨c, [], rfl, hc⟩, ⟨[], c, rfl, hc⟩⟩

theorem digits {digits : List Char} (hne : digits ≠ []) (hdigits : ∀ c ∈ digits, c.isDigit = true) :
    Solid digits := by
  obtain ⟨c, more, rfl, hc⟩ := exists_cons_of_digits hne hdigits
  refine ⟨⟨c, more, rfl, isBlank_of_isDigit hc⟩,
    ⟨_, _, (List.dropLast_concat_getLast hne).symm, ?_⟩⟩
  exact isBlank_of_isDigit (hdigits _ (List.getLast_mem hne))

theorem paddedText (width n : Nat) : Solid (paddedText width n) :=
  digits (paddedText_ne_nil width n) fun _ => isDigit_of_mem_paddedText

theorem minuteText (h m : Nat) : Solid (minuteText h m) := (paddedText 2 h).join (paddedText 2 m) _

theorem secondText (h m s : Nat) : Solid (secondText h m s) :=
  (minuteText h m).join (paddedText 2 s) _

theorem styleText (style : Style) (d : Date) : Solid (style.text d) := by
  cases style with
  | dashes | slashes => exact ((paddedText 4 _).join (paddedText 2 _) _).join (paddedText 2 _) _
  | monthFirst => exact ((paddedText 2 _).join (paddedText 2 _) _).join (paddedText 4 _) _

theorem append_fraction {text fraction : List Char} (ht : Solid text)
    (hfraction : IsFraction fraction n) : Solid (text ++ fraction) := by
  cases hfraction with
  | absent => rwa [List.append_nil]
  | digits hne hdigits => exact ht.join (digits hne hdigits) _

theorem zone {zone : List Char} {east : Int} (h : IsZone zone east) : Solid zone := by
  cases h with
  | utc hc => rcases hc with rfl | rfl <;> exact singleton (by decide)
  | east | west => exact append (singleton (by decide)) (minuteText _ _)

theorem intText (n : Int) : Solid (intText n) := by
  have hnat : Solid (natText n.natAbs) :=
    digits (natText_ne_nil _) fun _ => isDigit_of_mem_natText
  rw [ShellQuery.intText]
  split
  · exact append (singleton (by decide)) hnat
  · exact hnat

end Solid

/-- Every documented form stands by itself. -/
theorem Writes.solid {text : List Char} {i : Instant} (h : Writes text i) : Solid text := by
  cases h with
  | midnight style hd => exact .styleText style _
  | minute => exact (Solid.styleText _ _).join (.minuteText _ _) _
  | second _ _ _ _ _ hfraction =>
    exact ((Solid.styleText _ _).join (.secondText _ _ _) _).append_fraction hfraction
  | zoned _ _ _ _ _ hfraction hzone =>
    exact (((Solid.styleText _ _).join (.secondText _ _ _) _).append_fraction hfraction).append
      (.zone hzone)
  | millis => exact .intText _

/-! ## Every form -/

/-- The reader of dates finds the instant that a text in any documented form is for, and
blanks around a text make no difference. -/
theorem read?_writes :
    (∀ text i, Writes text i → read? text = some i)
      ∧ ∀ before text after, (∀ c ∈ before, isBlank c = true) → (∀ c ∈ after, isBlank c = true) →
          read? (before ++ text ++ after) = read? text := by
  refine ⟨fun text i h => ?_, fun before text after hbefore hafter => ?_⟩
  · rw [read?, h.solid.trim_eq]
    cases h with
    | midnight style hd =>
      rw [readZoned?_midnight style hd, layouts_midnight style hd]
      rfl
    | minute hd hjoins hh hm =>
      rw [readZoned?_minute hd hjoins hh hm, layouts_minute hd hjoins hh hm]
      rfl
    | second hd hjoins hh hm hs hfraction hslashes =>
      rw [readZoned?_second hd hjoins hh hm hs hfraction,
        layouts_second hd hjoins hh hm hs hfraction hslashes]
      rfl
    | zoned hd hmark hh hm hs hfraction hzone =>
      rw [readZoned?_zoned hd hmark hh hm hs hfraction hzone]
      rfl
    | @millis n h0 h1 =>
      rw [readZoned?_intText, layouts_intText]
      exact readInt64?_intText h0 h1
  · rw [read?, read?, trim_append_append hbefore hafter]

/-- A leap second east of UTC, with blanks around its text. -/
theorem read?_writes_leap :
    Writes "2024-02-29T23:59:60.25+05:30".toList ⟨1709231399, 1250000000⟩
      ∧ read? " 2024-02-29T23:59:60.25+05:30\n".toList = some ⟨1709231399, 1250000000⟩ := by
  have hd : Date.FourDigits ⟨2024, 2, 29⟩ := ⟨by decide, by decide, by decide⟩
  have hfraction : IsFraction ".25".toList 250000000 :=
    .digits (by decide) (List.all_eq_true.1 (by decide))
  have hzone : IsZone "+05:30".toList 19800 := @IsZone.east 5 30 (by decide) (by decide)
  have hutc : Instant.utc ⟨2024, 2, 29⟩ ⟨23, 59, 60, 250000000⟩ = ⟨1709251199, 1250000000⟩ :=
    (ofDateTime_eq_utc hd (by decide)).symm.trans (by decide)
  have hwrites : Writes "2024-02-29T23:59:60.25+05:30".toList ⟨1709231399, 1250000000⟩ := by
    have h := @Writes.zoned ⟨2024, 2, 29⟩ 'T' 23 59 60 250000000 ".25".toList "+05:30".toList 19800
      hd (.inl rfl) (by decide) (by decide) (by decide) hfraction hzone
    rw [hutc] at h
    exact h
  have hblanks := read?_writes.2 [' '] "2024-02-29T23:59:60.25+05:30".toList ['\n']
    (List.forall_mem_singleton.2 rfl) (List.forall_mem_singleton.2 rfl)
  exact ⟨hwrites, hblanks.trans (read?_writes.1 _ _ hwrites)⟩

end DateText

end ShellQuery
