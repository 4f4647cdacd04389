import ShellQuery.Proofs.Calendar.Count
import ShellQuery.Proofs.Calendar.Marks
import ShellQuery.Proofs.Calendar.Written

/-!
# The documented forms of a date text

A date text is a date alone, a date with a time, a date and a time with a zone, or a number
of milliseconds.  `Writes` says which text is for which instant, by the count of days on the
wall and by the digits that are written, without a look at the reader.

The reader is met here part by part: a number with its zeros in front, a fraction and a zone
are read up to what is behind them, and each layout reads the text that is written by it.
-/

namespace ShellQuery

open ShellQuery.Text
open ShellQuery.Decimal (digitsValue digitsValue_append)

/-- A date of the calendar with a year from 1 to 9999. -/
structure Date.FourDigits (d : Date) : Prop where
  valid : d.valid = true
  one_le : 1 ≤ d.year
  le : d.year ≤ 9999

theorem Date.FourDigits.bounds {d : Date} (hd : d.FourDigits) :
    d.year.toNat < 10000 ∧ (d.year.toNat : Int) = d.year ∧ d.month < 100 ∧ d.day < 100 := by
  obtain ⟨hvalid, hone, hle⟩ := hd
  have hparts := Date.le_of_valid hvalid
  omega

/-- The instant of a date and a time of day in UTC, by the count of days on the wall.  In a
leap second the nanoseconds of the second before it run on. -/
def Instant.utc (d : Date) (t : TimeOfDay) : Instant where
  seconds := d.daysSinceEpoch * 86400 + (t.hour * 3600 + t.minute * 60 + min t.second 59 : Nat)
  nanos := t.nanos + if t.second = 60 then 1000000000 else 0

/-- The first millisecond of the calendar. -/
def Instant.firstMillis : Int := -8334601228800000

/-- The last millisecond of the calendar. -/
def Instant.lastMillis : Int := 8210266876799999

theorem Instant.firstMillis_eq : firstMillis = Date.minDays * 86400000 := by decide

theorem Instant.lastMillis_eq : lastMillis = (Date.maxDays + 1) * 86400000 - 1 := by decide

namespace DateText

/-! ## Texts -/

/-- How the parts of a date are put together. -/
inductive Style where
  /-- Year, month and day with dashes. -/
  | dashes
  /-- Year, month and day with slashes. -/
  | slashes
  /-- Month, day and year with slashes. -/
  | monthFirst
  deriving DecidableEq, Repr

/-- A date with the year first. -/
def yearFirstText (separator : Char) (d : Date) : List Char :=
  paddedText 4 d.year.toNat ++ separator :: paddedText 2 d.month ++ separator :: paddedText 2 d.day

/-- A date in a style. -/
def Style.text (d : Date) : Style → List Char
  | dashes => yearFirstText '-' d
  | slashes => yearFirstText '/' d
  | monthFirst =>
      paddedText 2 d.month ++ '/' :: paddedText 2 d.day ++ '/' :: paddedText 4 d.year.toNat

/-- Hour and minute. -/
def minuteText (hour minute : Nat) : List Char := paddedText 2 hour ++ ':' :: paddedText 2 minute

/-- Hour, minute and second. -/
def secondText (hour minute second : Nat) : List Char :=
  minuteText hour minute ++ ':' :: paddedText 2 second

/-- What may stand between a date of a style and a time. -/
def Joins : Style → Char → Prop
  | .dashes, c => c = ' ' ∨ c = 'T'
  | .slashes, c => c = ' '
  | .monthFirst, _ => False

/-- A fraction of a second and its nanoseconds.  Beyond nine digits they are rounded down.
The fraction may be left out. -/
inductive IsFraction : List Char → Nat → Prop
  | absent : IsFraction [] 0
  | digits {digits : List Char} (hne : digits ≠ []) (hdigits : ∀ c ∈ digits, c.isDigit = true) :
      IsFraction ('.' :: digits) (digitsValue digits * 10 ^ 9 / 10 ^ digits.length)

/-- A zone and its seconds east of UTC. -/
inductive IsZone : List Char → Int → Prop
  | utc {c : Char} (hc : c = 'Z' ∨ c = 'z') : IsZone [c] 0
  | east {hours minutes : Nat} (hh : hours < 24) (hm : minutes < 60) :
      IsZone ('+' :: minuteText hours minutes) (hours * 3600 + minutes * 60 : Nat)
  | west {hours minutes : Nat} (hh : hours < 24) (hm : minutes < 60) :
      IsZone ('-' :: minuteText hours minutes) (-(hours * 3600 + minutes * 60 : Nat))

/-- The documented forms of an instant. -/
inductive Writes : List Char → Instant → Prop
  /-- A date alone is its midnight. -/
  | midnight {d : Date} (style : Style) (hd : d.FourDigits) :
      Writes (style.text d) (Instant.utc d ⟨0, 0, 0, 0⟩)
  /-- A date with hour and minute. -/
  | minute {d : Date} {style : Style} {mark : Char} {h m : Nat} (hd : d.FourDigits)
      (hjoins : Joins style mark) (hh : h < 24) (hm : m < 60) :
      Writes (style.text d ++ mark :: minuteText h m) (Instant.utc d ⟨h, m, 0, 0⟩)
  /-- A date with hour, minute and second.  Behind dashes there may be a fraction. -/
  | second {d : Date} {style : Style} {mark : Char} {h m s n : Nat} {fraction : List Char}
      (hd : d.FourDigits) (hjoins : Joins style mark) (hh : h < 24) (hm : m < 60) (hs : s ≤ 60)
      (hfraction : IsFraction fraction n) (hslashes : style = .slashes → fraction = []) :
      Writes (style.text d ++ mark :: secondText h m s ++ fraction) (Instant.utc d ⟨h, m, s, n⟩)
  /-- A date and a time with a zone. -/
  | zoned {d : Date} {mark : Char} {h m s n : Nat} {fraction zone : List Char} {east : Int}
      (hd : d.FourDigits) (hmark : mark = 'T' ∨ mark = 't' ∨ mark = ' ') (hh : h < 24) (hm : m < 60)
      (hs : s ≤ 60) (hfraction : IsFraction fraction n) (hzone : IsZone zone east) :
      Writes (Style.dashes.text d ++ mark :: secondText h m s ++ fraction ++ zone)
        { Instant.utc d ⟨h, m, s, n⟩ with
          seconds := (Instant.utc d ⟨h, m, s, n⟩).seconds - east }
  /-- Milliseconds from the start of 1970. -/
  | millis {n : Int} (h0 : Instant.firstMillis ≤ n) (h1 : n ≤ Instant.lastMillis) :
      Writes (intText n) ⟨n / 1000, (n % 1000).toNat * 1000000⟩

/-! ## Readers of numbers -/

theorem exists_cons_of_digits {digits : List Char} (hne : digits ≠ [])
    (hdigits : ∀ c ∈ digits, c.isDigit = true) :
    ∃ c more, digits = c :: more ∧ c.isDigit = true := by
  cases digits with
  | nil => exact absurd rfl hne
  | cons c more => exact ⟨c, more, rfl, hdigits c (List.mem_cons_self ..)⟩

theorem skipBlank_digits {digits : List Char} (hne : digits ≠ [])
    (hdigits : ∀ c ∈ digits, c.isDigit = true) (rest : List Char) :
    skipBlank (digits ++ rest) = digits ++ rest := by
  obtain ⟨c, more, rfl, hc⟩ := exists_cons_of_digits hne hdigits
  exact skipBlank_cons (isBlank_of_isDigit hc) _

/-- Digits are read up to the largest count of them, or up to what is no digit. -/
theorem readDigits?_digits {most : Nat} {digits rest : List Char} (hne : digits ≠ [])
    (hdigits : ∀ c ∈ digits, c.isDigit = true) (hlength : digits.length ≤ most)
    (hrest : digits.length = most ∨ ∀ c ∈ rest.head?, c.isDigit = false) :
    readDigits? most (digits ++ rest) = some (digitsValue digits, rest) := by
  have hstop : (rest.take (most - digits.length)).takeWhile Char.isDigit = [] := by
    rcases hrest with hfull | hhead
    · rw [hfull, Nat.sub_self, List.take_zero, List.takeWhile_nil]
    · cases rest with
      | nil => rw [List.take_nil, List.takeWhile_nil]
      | cons c more =>
        cases most - digits.length with
        | zero => rfl
        | succ k =>
          rw [List.take_succ_cons, List.takeWhile_cons_of_neg]
          simp [hhead c rfl]
  have htake : ((digits ++ rest).take most).takeWhile Char.isDigit = digits := by
    rw [List.take_append, List.take_of_length_le hlength, List.takeWhile_append_of_pos hdigits,
      hstop, List.append_nil]
  rw [readDigits?, htake, List.isEmpty_eq_false_iff.2 hne, List.drop_left]
  rfl

theorem readTwo?_digits {digits rest : List Char} (hdigits : ∀ c ∈ digits, c.isDigit = true)
    (hlength : digits.length = 2) :
    readTwo? (digits ++ rest) = some (digitsValue digits, rest) := by
  have hne : digits ≠ [] := by rintro rfl; cases hlength
  rw [readTwo?, skipBlank_digits hne hdigits]
  exact readDigits?_digits hne hdigits hlength.le (.inl hlength)

theorem readTwo?_paddedText {n : Nat} (h : n < 100) (rest : List Char) :
    readTwo? (paddedText 2 n ++ rest) = some (n, rest) := by
  rw [readTwo?_digits (fun _ => isDigit_of_mem_paddedText) (length_paddedText (by decide) h),
    digitsValue_paddedText]

/-- A year that starts with a digit has no sign. -/
theorem readYear?_digits {digits rest : List Char} (hne : digits ≠ [])
    (hdigits : ∀ c ∈ digits, c.isDigit = true) (hlength : digits.length ≤ 4)
    (hrest : digits.length = 4 ∨ ∀ c ∈ rest.head?, c.isDigit = false) :
    readYear? (skipBlank (digits ++ rest)) = some ((digitsValue digits : Int), rest) := by
  rw [skipBlank_digits hne hdigits]
  have hread := readDigits?_digits hne hdigits hlength hrest
  obtain ⟨c, more, rfl, hc⟩ := exists_cons_of_digits hne hdigits
  have hminus : c ≠ '-' := by rintro rfl; exact absurd hc (by decide)
  have hplus : c ≠ '+' := by rintro rfl; exact absurd hc (by decide)
  rw [readYear?.eq_3, hread]
  · rfl
  · exact fun _ h => hminus (List.cons.inj h).1
  · exact fun _ h => hplus (List.cons.inj h).1

theorem readYear?_paddedText {n : Nat} (h : n < 10000) (rest : List Char) :
    readYear? (skipBlank (paddedText 4 n ++ rest)) = some ((n : Int), rest) := by
  have hlength : (paddedText 4 n).length = 4 := length_paddedText (by decide) h
  rw [readYear?_digits (paddedText_ne_nil 4 n) (fun _ => isDigit_of_mem_paddedText) hlength.le
    (.inl hlength), digitsValue_paddedText]

/-! ## Fractions and zones -/

theorem digitsValue_lt {digits : List Char} (hdigits : ∀ c ∈ digits, c.isDigit = true) :
    digitsValue digits < 10 ^ digits.length := by
  induction digits with
  | nil => decide
  | cons c digits ih =>
    have hc : c.toNat ≤ '9'.toNat := by
      have h := hdigits c (List.mem_cons_self ..)
      simp only [Char.isDigit, Bool.and_eq_true, decide_eq_true_eq] at h
      exact h.2
    have hfirst : digitsValue [c] ≤ 9 := by
      have hnine : '9'.toNat = '0'.toNat + 9 := rfl
      simp only [digitsValue, List.foldl_cons, List.foldl_nil]
      omega
    have hrest := ih fun d hd => hdigits d (List.mem_cons_of_mem c hd)
    calc digitsValue ([c] ++ digits)
        = digitsValue [c] * 10 ^ digits.length + digitsValue digits := digitsValue_append _ _
      _ < 9 * 10 ^ digits.length + 10 ^ digits.length :=
          Nat.add_lt_add_of_le_of_lt (Nat.mul_le_mul_right _ hfirst) hrest
      _ = 10 ^ (digits.length + 1) := by rw [Nat.pow_succ]; omega

/-- Up to nine digits nothing is rounded. -/
theorem nanos_of_short {digits : List Char} (h : digits.length ≤ 9) :
    digitsValue digits * 10 ^ 9 / 10 ^ digits.length
      = digitsValue digits * 10 ^ (9 - digits.length) := by
  have hnine : 10 ^ 9 = 10 ^ (9 - digits.length) * 10 ^ digits.length := by
    rw [← Nat.pow_add, Nat.sub_add_cancel h]
  rw [hnine, ← Nat.mul_assoc, Nat.mul_div_cancel _ (Nat.pow_pos (by decide))]

/-- The first nine digits of a fraction are its nanoseconds, rounded down. -/
theorem digitsValue_take_nine {digits : List Char} (hdigits : ∀ c ∈ digits, c.isDigit = true) :
    digitsValue (digits.take 9) * Nat.pow 10 (9 - (digits.take 9).length)
      = digitsValue digits * 10 ^ 9 / 10 ^ digits.length := by
  have hpos : ∀ k, 0 < 10 ^ k := fun k => Nat.pow_pos (by decide)
  rw [Nat.pow_eq]
  by_cases hshort : digits.length ≤ 9
  · rw [List.take_of_length_le hshort, nanos_of_short hshort]
  · have hlength : (digits.take 9).length = 9 := by rw [List.length_take]; omega
    have hsplit := digitsValue_append (digits.take 9) (digits.drop 9)
    rw [List.take_append_drop, List.length_drop] at hsplit
    have hrest : digitsValue (digits.drop 9) < 10 ^ (digits.length - 9) := by
      have h := @digitsValue_lt (digits.drop 9) fun c hc => hdigits c (List.mem_of_mem_drop hc)
      rwa [List.length_drop] at h
    have hall : 10 ^ digits.length = 10 ^ (digits.length - 9) * 10 ^ 9 := by
      rw [← Nat.pow_add]
      congr 1
      omega
    rw [hlength, Nat.sub_self, Nat.pow_zero, Nat.mul_one, hall,
      Nat.mul_div_mul_right _ _ (hpos 9), hsplit, Nat.mul_comm, Nat.mul_add_div (hpos _),
      Nat.div_eq_of_lt hrest, Nat.add_zero]

/-- A fraction is read up to what is behind it, also if it is left out. -/
theorem readFraction?_of_isFraction {fraction rest : List Char} {n : Nat}
    (h : IsFraction fraction n) (hrest : ∀ c ∈ rest.head?, c ≠ '.' ∧ c.isDigit = false) :
    readFraction? (fraction ++ rest) = some (n, rest) := by
  cases h with
  | absent =>
    rw [List.nil_append]
    exact readFraction?.eq_2 rest fun more hmore => (hrest '.' (by rw [hmore]; rfl)).1 rfl
  | @digits digits hne hdigits =>
    have htake : (digits ++ rest).takeWhile Char.isDigit = digits := by
      rw [List.takeWhile_append_of_pos hdigits]
      cases rest with
      | nil => simp
      | cons c more => simp [(hrest c rfl).2]
    have hdrop : (digits ++ rest).dropWhile Char.isDigit = rest := by
      rw [List.dropWhile_append_of_pos hdigits]
      cases rest with
      | nil => simp
      | cons c more => simp [(hrest c rfl).2]
    simp only [List.cons_append, readFraction?, htake, hdrop, List.isEmpty_eq_false_iff.2 hne,
      Bool.false_eq_true, if_false, digitsValue_take_nine hdigits]

theorem readExact?_two {n : Nat} (h : n < 100) (rest : List Char) :
    readExact? 2 (paddedText 2 n ++ rest) = some (n, rest) :=
  readExact?_paddedText (by decide) h rest

theorem readExact?_last {n : Nat} (h : n < 100) : readExact? 2 (paddedText 2 n) = some (n, []) := by
  have hread := readExact?_two h []
  rwa [List.append_nil] at hread

theorem readZone?_of_isZone {zone : List Char} {east : Int} (h : IsZone zone east) :
    readZone? zone = some (east, []) := by
  cases h with
  | utc hc => simp [readZone?, hc]
  | @east hours minutes hh hm | @west hours minutes hh hm =>
    simp [readZone?, minuteText, expectChar?, readExact?_two (show hours < 100 by omega),
      readExact?_last (show minutes < 100 by omega), hh, hm]

/-- A zone starts neither with a point nor with a digit. -/
theorem head?_of_isZone {zone : List Char} {east : Int} (h : IsZone zone east) :
    ∀ c ∈ zone.head?, c ≠ '.' ∧ c.isDigit = false := by
  cases h with
  | utc hc => rcases hc with rfl | rfl <;> simp
  | east => simp
  | west => simp

/-! ## Layouts on their own texts -/

theorem readItems?_yearFirst {d : Date} (hd : d.FourDigits) (c : Char) (r : Reading)
    (tail : List Char) (more : Layout) :
    readItems? r (yearFirstText c d ++ tail) (yearFirst c ++ more)
      = readItems? { r with date := d } tail more := by
  obtain ⟨hyear, hcast, hmonth, hday⟩ := hd.bounds
  simp [yearFirstText, yearFirst, readItems?, Item.read?, expectChar?, readYear?_paddedText hyear,
    readTwo?_paddedText hmonth, readTwo?_paddedText hday, hcast]

theorem readItems?_monthFirst {d : Date} (hd : d.FourDigits) (r : Reading) :
    readItems? r (Style.monthFirst.text d) [.month, .char '/', .day, .char '/', .year]
      = some { r with date := d } := by
  obtain ⟨hyear, hcast, hmonth, hday⟩ := hd.bounds
  have hlast := readYear?_paddedText hyear []
  rw [List.append_nil] at hlast
  simp [Style.text, readItems?, Item.read?, expectChar?, hlast, readTwo?_paddedText hmonth,
    readTwo?_paddedText hday, hcast]

theorem readItems?_toMinute {h m : Nat} (hh : h < 24) (hm : m < 60) (r : Reading)
    (tail : List Char) (more : Layout) :
    readItems? r (minuteText h m ++ tail) (toMinute ++ more)
      = readItems? { r with time := { r.time with hour := h, minute := m } } tail more := by
  simp [minuteText, toMinute, readItems?, Item.read?, expectChar?,
    readTwo?_paddedText (show h < 100 by omega), readTwo?_paddedText (show m < 100 by omega)]

theorem readItems?_toSecond {h m s : Nat} (hh : h < 24) (hm : m < 60) (hs : s ≤ 60) (r : Reading)
    (tail : List Char) (more : Layout) :
    readItems? r (secondText h m s ++ tail) (toSecond ++ more)
      = readItems? { r with time := { r.time with hour := h, minute := m, second := s } } tail
          more := by
  rw [secondText, toSecond, List.append_assoc, List.append_assoc, readItems?_toMinute hh hm]
  simp [readItems?, Item.read?, expectChar?, readTwo?_paddedText (show s < 100 by omega)]

/-- What stands for a mark between date and time in a layout. -/
def joint (mark : Char) : Item := if mark = 'T' then .char 'T' else .blank

theorem readItems?_joint {mark : Char} (hmark : mark = ' ' ∨ mark = 'T') (h m : Nat) (r : Reading)
    (tail : List Char) (more : Layout) :
    readItems? r (mark :: (minuteText h m ++ tail)) (joint mark :: more)
      = readItems? r (minuteText h m ++ tail) more := by
  have hskip : skipBlank (minuteText h m ++ tail) = minuteText h m ++ tail := by
    rw [minuteText, List.append_assoc]
    exact skipBlank_digits (paddedText_ne_nil 2 h) (fun _ => isDigit_of_mem_paddedText) _
  rcases hmark with rfl | rfl
  · have hblank : skipBlank (' ' :: (minuteText h m ++ tail)) = minuteText h m ++ tail :=
      (skipBlank_append (List.forall_mem_singleton.2 rfl) _).trans hskip
    simp only [joint, readItems?, Item.read?, hblank]
    rfl
  · simp [joint, readItems?, Item.read?, expectChar?]

/-! ## The layout of a form -/

theorem ofDateTime_eq_utc {d : Date} (hd : d.FourDigits) {t : TimeOfDay} (ht : t.second ≤ 60) :
    Instant.ofDateTime d t = Instant.utc d t := by
  rw [Instant.ofDateTime, Instant.utc, Date.toDays_eq_daysSinceEpoch hd.valid hd.one_le]
  by_cases hleap : t.second = 60
  · simp [hleap, Instant.secondsPerDay]
    omega
  · have hmin : min t.second 59 = t.second := by omega
    simp [hleap, hmin, Instant.secondsPerDay]
    omega

theorem read?_of_readItems? {layout : Layout} {text : List Char} {d : Date} {t : TimeOfDay}
    (hd : d.FourDigits) (ht : validTime t = true)
    (h : readItems? {} text layout = some ⟨d, t⟩) : layout.read? text = some (Instant.utc d t) := by
  have hsecond : t.second ≤ 60 := by
    simp only [validTime, Bool.and_eq_true, decide_eq_true_eq] at ht
    exact ht.2
  rw [Layout.read?, h]
  simp [hd.valid, ht, ofDateTime_eq_utc hd hsecond]

variable {d : Date} {mark : Char} {h m s n : Nat}

theorem read?_date (hd : d.FourDigits) (c : Char) :
    (yearFirst c).read? (yearFirstText c d) = some (Instant.utc d ⟨0, 0, 0, 0⟩) := by
  refine read?_of_readItems? hd (by decide) ?_
  have hitems := readItems?_yearFirst hd c {} [] []
  rwa [List.append_nil, List.append_nil] at hitems

theorem read?_monthFirst (hd : d.FourDigits) :
    Layout.read? [.month, .char '/', .day, .char '/', .year] (Style.monthFirst.text d)
      = some (Instant.utc d ⟨0, 0, 0, 0⟩) :=
  read?_of_readItems? hd (by decide) (readItems?_monthFirst hd {})

theorem read?_minute (hd : d.FourDigits) (c : Char) (hmark : mark = ' ' ∨ mark = 'T')
    (hh : h < 24) (hm : m < 60) :
    Layout.read? (yearFirst c ++ joint mark :: toMinute)
        (yearFirstText c d ++ mark :: minuteText h m)
      = some (Instant.utc d ⟨h, m, 0, 0⟩) := by
  refine read?_of_readItems? hd (by simp [validTime, hh, hm]) ?_
  have hjoint := readItems?_joint hmark h m { date := d } [] toMinute
  have htime := readItems?_toMinute hh hm { date := d } [] []
  rw [List.append_nil] at hjoint
  rw [List.append_nil, List.append_nil] at htime
  rw [readItems?_yearFirst hd, hjoint, htime]
  rfl

/-- What is behind the seconds has to be read as the nanoseconds. -/
theorem read?_second (hd : d.FourDigits) (c : Char) (hmark : mark = ' ' ∨ mark = 'T')
    (hh : h < 24) (hm : m < 60) (hs : s ≤ 60) {fraction : List Char} {more : Layout}
    (hmore : readItems? ⟨d, ⟨h, m, s, 0⟩⟩ fraction more = some ⟨d, ⟨h, m, s, n⟩⟩) :
    Layout.read? (yearFirst c ++ joint mark :: (toSecond ++ more))
        (yearFirstText c d ++ mark :: secondText h m s ++ fraction)
      = some (Instant.utc d ⟨h, m, s, n⟩) := by
  refine read?_of_readItems? hd (by simp [validTime, hh, hm, hs]) ?_
  have hjoint := readItems?_joint hmark h m { date := d } (':' :: paddedText 2 s ++ fraction)
    (toSecond ++ more)
  rw [← List.append_assoc, ← secondText] at hjoint
  rw [List.append_assoc, List.cons_append, readItems?_yearFirst hd, hjoint,
    readItems?_toSecond hh hm hs]
  exact hmore

theorem readItems?_fraction {fraction : List Char} (hfraction : IsFraction fraction n)
    (r : Reading) :
    readItems? r fraction [.fraction] = some { r with time := { r.time with nanos := n } } := by
  have hread := @readFraction?_of_isFraction fraction [] n hfraction (by simp)
  rw [List.append_nil] at hread
  simp [readItems?, Item.read?, hread]

end DateText

end ShellQuery
