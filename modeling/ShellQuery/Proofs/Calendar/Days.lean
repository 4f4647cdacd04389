import ShellQuery.Calendar.Date

/-!
# Days and dates

A number of days stands for one date of the calendar, and the days of that date are the
number: `toDays_ofDays`.  The days from 1970 through 9999 have dates of the calendar with
years of four digits: `valid_ofDays`.

A day has a place in the calendar by cycles of 400 years that start in March: the cycle,
the year of the cycle and the day of the year.  The last day of such a year is a leap day,
and a day has number 365 of its year only where the year after it in the calendar has one.
-/

namespace ShellQuery.Date

/-! ## Years of a cycle -/

/-- The days of a cycle before a year of it. -/
def yearStart (year : Int) : Int := year * 365 + year / 4 - year / 100

/-- The year of a cycle that a day of the cycle is in. -/
def yearOfDay (day : Int) : Int := (day - day / 1460 + day / 36524 - day / 146096) / 365

/-- A year of a cycle and a day of that year. -/
structure IsDayOfYear (year day : Int) : Prop where
  year_nonneg : 0 ≤ year
  year_le : year ≤ 399
  day_nonneg : 0 ≤ day
  day_le : day ≤ 365
  leap : day = 365 → isLeap (year + 1) = true

theorem isLeap_iff {year : Int} :
    isLeap year = true ↔ year % 4 = 0 ∧ (year % 100 ≠ 0 ∨ year % 400 = 0) := by
  simp [isLeap]

/-- Within a century of March years the leap day is every fourth year, and the division by
365 finds the year when the leap days so far are taken off. -/
theorem yearOfDay_century {century r : Int} (h0 : 0 ≤ r) (h1 : r ≤ 36523) (hb0 : 0 ≤ century)
    (hb1 : century ≤ 3) :
    ∃ k w, 0 ≤ k ∧ k ≤ 24 ∧ 0 ≤ w ∧ w ≤ 3 ∧ (r - (24 * century + r) / 1460) / 365 = 4 * k + w
      ∧ 0 ≤ r - 1461 * k - 365 * w ∧ r - 1461 * k - 365 * w ≤ 365
      ∧ (r - 1461 * k - 365 * w = 365 → w = 3 ∧ k ≤ 23) := by
  -- Four years are 1461 days, and `m` is the day within them.
  obtain ⟨k, m, rfl, hm0, hm1, hk0, hk1⟩ :
      ∃ k m, r = 1461 * k + m ∧ 0 ≤ m ∧ m ≤ 1460 ∧ 0 ≤ k ∧ k ≤ 24 :=
    ⟨r / 1461, r % 1461, by omega⟩
  have hleaps : (24 * century + (1461 * k + m)) / 1460 = k + (24 * century + k + m) / 1460 := by
    omega
  have hyear : (1461 * k + m - (24 * century + (1461 * k + m)) / 1460) / 365
      = 4 * k + (m - (24 * century + k + m) / 1460) / 365 := by
    rw [hleaps]
    omega
  refine ⟨k, (m - (24 * century + k + m) / 1460) / 365, hk0, hk1, ?_, ?_, hyear, ?_, ?_, ?_⟩
  all_goals omega

theorem yearStart_century {century k w : Int} (hk0 : 0 ≤ k) (hk1 : k ≤ 24) (hw0 : 0 ≤ w)
    (hw1 : w ≤ 3) :
    yearStart (100 * century + (4 * k + w)) = 36524 * century + 1461 * k + 365 * w := by
  have hfour : (100 * century + (4 * k + w)) / 4 = 25 * century + k := by omega
  have hhundred : (100 * century + (4 * k + w)) / 100 = century := by omega
  rw [yearStart, hfour, hhundred]
  omega

theorem isDayOfYear_yearOfDay {day : Int} (h0 : 0 ≤ day) (h1 : day < daysPerCycle) :
    IsDayOfYear (yearOfDay day) (day - yearStart (yearOfDay day)) := by
  rw [daysPerCycle] at h1
  -- The last day of the cycle is the leap day that the fourth century has beyond the others.
  by_cases hlast : day = 146096
  · subst hlast
    exact ⟨by decide, by decide, by decide, by decide, fun _ => by decide⟩
  · obtain ⟨century, r, rfl, hr0, hr1, hb0, hb1⟩ :
        ∃ century r, day = 36524 * century + r ∧ 0 ≤ r ∧ r ≤ 36523 ∧ 0 ≤ century ∧ century ≤ 3 :=
      ⟨day / 36524, day % 36524, by omega⟩
    obtain ⟨k, w, hk0, hk1, hw0, hw1, hyear, hd0, hd1, hleap⟩ :=
      yearOfDay_century hr0 hr1 hb0 hb1
    have hy : yearOfDay (36524 * century + r) = 100 * century + (4 * k + w) := by
      rw [yearOfDay]
      omega
    rw [hy, yearStart_century hk0 hk1 hw0 hw1]
    refine ⟨by omega, by omega, by omega, by omega, fun h => isLeap_iff.2 ?_⟩
    obtain ⟨rfl, hk⟩ := hleap (by omega)
    omega

/-! ## Days of a year -/

/-- The month that is a number of months behind March. -/
def monthBehindMarch (m : Int) : Nat := (if m < 10 then m + 3 else m - 9).toNat

theorem monthBehindMarch_count {m : Int} (h0 : 0 ≤ m) (h1 : m ≤ 11) :
    ((monthBehindMarch m : Int) + 9) % 12 = m := by
  rw [monthBehindMarch]
  split
  all_goals omega

/-- The months from March on but for the last begin every 30.6 days, rounded. -/
theorem daysInMonth_monthBehindMarch (year : Int) {m : Int} (h0 : 0 ≤ m) (h1 : m ≤ 10) :
    (daysInMonth year (monthBehindMarch m) : Int)
      = (153 * (m + 1) + 2) / 5 - (153 * m + 2) / 5 := by
  obtain rfl | rfl | rfl | rfl | rfl | rfl | rfl | rfl | rfl | rfl | rfl :
      m = 0 ∨ m = 1 ∨ m = 2 ∨ m = 3 ∨ m = 4 ∨ m = 5 ∨ m = 6 ∨ m = 7 ∨ m = 8 ∨ m = 9 ∨ m = 10 := by
    omega
  all_goals rfl

/-- The date of a day of a year that starts in March. -/
def ofDayOfYear (year day : Int) : Date :=
  let m := (5 * day + 2) / 153
  ⟨if monthBehindMarch m ≤ 2 then year + 1 else year, monthBehindMarch m,
    (day - (153 * m + 2) / 5 + 1).toNat⟩

/-- The date of a number of days is found by the cycle, the year and the day of the year. -/
theorem ofDays_eq (days : Int) :
    let shifted := days + epochShift
    let day := shifted % daysPerCycle
    ofDays days = ofDayOfYear (shifted / daysPerCycle * 400 + yearOfDay day)
      (day - yearStart (yearOfDay day)) := by
  intro shifted day
  have hfield : ∀ (m : Int) (year : Int),
      (if monthBehindMarch m ≤ 2 then year + 1 else year)
        = if (if m < 10 then m + 3 else m - 9) ≤ 2 then year + 1 else year := by
    intro m year
    have hiff : monthBehindMarch m ≤ 2 ↔ (if m < 10 then m + 3 else m - 9) ≤ 2 := Int.toNat_le
    simp only [hiff]
  rw [ofDays, ofDayOfYear, hfield, yearStart, Int.mul_comm _ 365]
  rfl

theorem year_ofDayOfYear (year day : Int) :
    (ofDayOfYear year day).year
      = if monthBehindMarch ((5 * day + 2) / 153) ≤ 2 then year + 1 else year := rfl

theorem day_ofDayOfYear (year day : Int) :
    ((ofDayOfYear year day).day : Int) = day - (153 * ((5 * day + 2) / 153) + 2) / 5 + 1 := by
  have hday : 0 ≤ day - (153 * ((5 * day + 2) / 153) + 2) / 5 + 1 := by omega
  exact Int.toNat_of_nonneg hday

theorem toDays_ofDayOfYear {cycle year day : Int} (h : IsDayOfYear year day) :
    toDays (ofDayOfYear (cycle * 400 + year) day)
      = cycle * daysPerCycle + (yearStart year + day) - epochShift := by
  obtain ⟨hy0, hy1, hd0, hd1, -⟩ := h
  have hcycle : (cycle * 400 + year) / 400 = cycle := by omega
  have hyear : (cycle * 400 + year) % 400 = year := by omega
  have hfield : (if (ofDayOfYear (cycle * 400 + year) day).month ≤ 2
      then (ofDayOfYear (cycle * 400 + year) day).year - 1
      else (ofDayOfYear (cycle * 400 + year) day).year) = cycle * 400 + year := by
    rw [year_ofDayOfYear, ofDayOfYear]
    split
    all_goals omega
  have hmonth : ((ofDayOfYear (cycle * 400 + year) day).month + 9 : Int) % 12
      = (5 * day + 2) / 153 := monthBehindMarch_count (by omega) (by omega)
  rw [toDays]
  simp only [hfield, hmonth, day_ofDayOfYear, hcycle, hyear, yearStart]
  omega

/-- The days of the date of a number of days are the number. -/
theorem toDays_ofDays (days : Int) : toDays (ofDays days) = days := by
  have h0 : 0 ≤ (days + epochShift) % daysPerCycle := Int.emod_nonneg _ (by decide)
  have h1 : (days + epochShift) % daysPerCycle < daysPerCycle := Int.emod_lt_of_pos _ (by decide)
  have hsplit := Int.ediv_mul_add_emod (days + epochShift) daysPerCycle
  rw [ofDays_eq, toDays_ofDayOfYear (isDayOfYear_yearOfDay h0 h1)]
  omega

/-! ## Dates of the calendar -/

theorem daysInMonth_le (year : Int) (month : Nat) : daysInMonth year month ≤ 31 := by
  rw [daysInMonth.eq_def]
  split
  · cases isLeap year <;> decide
  all_goals decide

theorem le_of_valid {d : Date} (h : valid d = true) : d.month ≤ 12 ∧ d.day ≤ 31 := by
  simp only [valid, Bool.and_eq_true, decide_eq_true_eq] at h
  obtain ⟨⟨⟨-, hmonth⟩, -⟩, hday⟩ := h
  exact ⟨hmonth, Nat.le_trans hday (daysInMonth_le d.year d.month)⟩

theorem day_le_daysInMonth {year day : Int} (hd0 : 0 ≤ day) (hd1 : day ≤ 365)
    (hleap : day = 365 → isLeap year = true) :
    day - (153 * ((5 * day + 2) / 153) + 2) / 5 + 1
      ≤ daysInMonth year (monthBehindMarch ((5 * day + 2) / 153)) := by
  by_cases hm : (5 * day + 2) / 153 ≤ 10
  · rw [daysInMonth_monthBehindMarch year (by omega) hm]
    omega
  · have hlast : (5 * day + 2) / 153 = 11 := by omega
    have hfebruary : monthBehindMarch 11 = 2 := rfl
    rw [hlast, hfebruary, daysInMonth]
    cases hl : isLeap year with
    | true =>
      rw [if_pos rfl]
      omega
    | false =>
      have hne : day ≠ 365 := fun h => Bool.false_ne_true (hl ▸ hleap h)
      rw [if_neg Bool.false_ne_true]
      omega

theorem valid_ofDayOfYear {cycle year day : Int} (h : IsDayOfYear year day)
    (h0 : minYear ≤ cycle * 400 + year) (h1 : cycle * 400 + year < maxYear) :
    valid (ofDayOfYear (cycle * 400 + year) day) = true := by
  obtain ⟨hy0, hy1, hd0, hd1, hleap⟩ := h
  have hday := day_ofDayOfYear (cycle * 400 + year) day
  have hmonth : 1 ≤ monthBehindMarch ((5 * day + 2) / 153)
      ∧ monthBehindMarch ((5 * day + 2) / 153) ≤ 12 := by
    rw [monthBehindMarch]
    split
    all_goals omega
  have hyear : cycle * 400 + year ≤ (ofDayOfYear (cycle * 400 + year) day).year
      ∧ (ofDayOfYear (cycle * 400 + year) day).year ≤ cycle * 400 + year + 1 := by
    rw [year_ofDayOfYear]
    split
    all_goals omega
  -- The day 365 is in February, so its year in the calendar is the next one.
  have hleap' : day = 365 → isLeap (ofDayOfYear (cycle * 400 + year) day).year = true := by
    rintro rfl
    have h := isLeap_iff.1 (hleap rfl)
    have hnext : (ofDayOfYear (cycle * 400 + year) 365).year = cycle * 400 + year + 1 := rfl
    rw [hnext]
    exact isLeap_iff.2 (by omega)
  have hle := day_le_daysInMonth hd0 hd1 hleap'
  simp only [valid, Bool.and_eq_true, decide_eq_true_eq]
  refine ⟨⟨⟨⟨⟨by omega, by omega⟩, hmonth.1⟩, hmonth.2⟩, by omega⟩, ?_⟩
  exact Int.ofNat_le.1 (hday ▸ hle)

/-- The days from 1970 through 9999 have dates in the calendar with years of four digits. -/
theorem valid_ofDays {days : Int} (h0 : 0 ≤ days) (h1 : days < 2932897) :
    valid (ofDays days) = true ∧ 0 ≤ (ofDays days).year ∧ (ofDays days).year ≤ 9999 := by
  have hr0 : 0 ≤ (days + epochShift) % daysPerCycle := Int.emod_nonneg _ (by decide)
  have hr1 : (days + epochShift) % daysPerCycle < daysPerCycle := Int.emod_lt_of_pos _ (by decide)
  have hsplit := Int.ediv_mul_add_emod (days + epochShift) daysPerCycle
  have hd := isDayOfYear_yearOfDay hr0 hr1
  rw [ofDays_eq]
  generalize (days + epochShift) / daysPerCycle = cycle at *
  generalize (days + epochShift) % daysPerCycle = r at *
  generalize yearOfDay r = year at *
  simp only [daysPerCycle, epochShift] at hsplit hr1
  have hcycle : 0 ≤ cycle ∧ cycle ≤ 24 := by omega
  obtain ⟨hy0, hy1, hd0, hd1, -⟩ := id hd
  refine ⟨valid_ofDayOfYear hd ?_ ?_, ?_⟩
  · rw [minYear]
    omega
  · rw [maxYear]
    omega
  · rw [year_ofDayOfYear]
    split
    next hmonth =>
      -- January and February of the year 10000 are behind the last of the days.
      have hlate : 306 ≤ r - yearStart year := by
        rw [monthBehindMarch] at hmonth
        omega
      have hstart : year = 399 → yearStart year = 145731 := by
        rintro rfl
        rfl
      omega
    next => omega

end ShellQuery.Date
