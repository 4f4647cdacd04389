import ShellQuery.Proofs.Calendar.Days

/-!
# Counting days by years and months

The days of the calendar, counted as they are on the wall: the days of all years before,
the days of all months before in the year, and the day of the month.  The calendar counts
by years that start in March and by cycles of 400 years.  `toDays_eq_daysSinceEpoch` says
that the two counts agree on every date of the calendar from year one on.
-/

namespace ShellQuery.Date

/-- The number of days of a year. -/
def daysInYear (year : Int) : Nat := if isLeap year then 366 else 365

/-- The number of days of the years from one to a year. -/
def daysOfYears : Nat → Nat
  | 0 => 0
  | year + 1 => daysOfYears year + daysInYear (year + 1 : Nat)

/-- The number of days of the months of a year from January to a month. -/
def daysOfMonths (year : Int) : Nat → Nat
  | 0 => 0
  | month + 1 => daysOfMonths year month + daysInMonth year (month + 1)

/-- The number of a day, where the first of January of year one is day one. -/
def dayNumber (d : Date) : Nat :=
  daysOfYears (d.year.toNat - 1) + daysOfMonths d.year (d.month - 1) + d.day

/-- The days from the first of January 1970 to a date. -/
def daysSinceEpoch (d : Date) : Int := (dayNumber d : Int) - dayNumber ⟨1970, 1, 1⟩

/-! ## Years -/

/-- The number of days of the years from one to a year, in closed form: there is a leap day
every fourth year, but for three of four centuries. -/
def daysThrough (year : Int) : Int := 365 * year + year / 4 - year / 100 + year / 400

theorem daysThrough_eq_pred_add (year : Int) :
    daysThrough year = daysThrough (year - 1) + daysInYear year := by
  rw [daysThrough, daysThrough, daysInYear]
  split
  next h =>
    rw [isLeap_iff] at h
    omega
  next h =>
    rw [isLeap_iff] at h
    omega

theorem daysOfYears_eq (year : Nat) : (daysOfYears year : Int) = daysThrough year := by
  induction year with
  | zero => rfl
  | succ year ih =>
    have hpred : ((year + 1 : Nat) : Int) - 1 = year := by omega
    rw [daysOfYears, daysThrough_eq_pred_add, hpred, Int.natCast_add, ih]

/-- The days of whole cycles and of the years of a cycle. -/
theorem cycle_eq_daysThrough (year : Int) :
    year / 400 * daysPerCycle + (year % 400 * 365 + year % 400 / 4 - year % 400 / 100)
      = daysThrough year := by
  rw [daysThrough, daysPerCycle]
  omega

theorem dayNumber_epoch : dayNumber ⟨1970, 1, 1⟩ = 719163 := by
  have hyears : (daysOfYears 1969 : Int) = 719162 := by rw [daysOfYears_eq]; rfl
  have hbefore : (1970 : Int).toNat - 1 = 1969 := by decide
  simp only [dayNumber, hbefore, Nat.sub_self, daysOfMonths]
  omega

/-! ## Months -/

/-- The days of a year before one of its months.  Behind February they are the days before
the same month in a count that starts in March, moved by January and February. -/
theorem daysOfMonths_eq {year : Int} {month : Nat} (h1 : 1 ≤ month) (h12 : month ≤ 12) :
    (daysOfMonths year (month - 1) : Int)
      = (153 * (((month : Int) + 9) % 12) + 2) / 5
        + if month ≤ 2 then -306 else if isLeap year then 60 else 59 := by
  obtain rfl | rfl | rfl | rfl | rfl | rfl | rfl | rfl | rfl | rfl | rfl | rfl :
      month = 1 ∨ month = 2 ∨ month = 3 ∨ month = 4 ∨ month = 5 ∨ month = 6 ∨ month = 7
        ∨ month = 8 ∨ month = 9 ∨ month = 10 ∨ month = 11 ∨ month = 12 := by
    omega
  all_goals cases h : isLeap year <;> simp [daysOfMonths, daysInMonth, h]

/-! ## Dates -/

/-- The count by years that start in March, with its cycles undone. -/
theorem toDays_eq_daysThrough (d : Date) :
    toDays d = daysThrough (if d.month ≤ 2 then d.year - 1 else d.year)
      + ((153 * (((d.month : Int) + 9) % 12) + 2) / 5 + d.day - 1) - epochShift := by
  rw [← cycle_eq_daysThrough, toDays]
  simp only [Int.add_assoc]

/-- Both counts give every date of the calendar the same day. -/
theorem toDays_eq_daysSinceEpoch {d : Date} (h : valid d = true) (hyear : 1 ≤ d.year) :
    toDays d = daysSinceEpoch d := by
  simp only [valid, Bool.and_eq_true, decide_eq_true_eq] at h
  obtain ⟨⟨⟨⟨-, hmonth1⟩, hmonth12⟩, -⟩, -⟩ := h
  have hmonths := @daysOfMonths_eq d.year d.month hmonth1 hmonth12
  have hyears := daysOfYears_eq (d.year.toNat - 1)
  have hdigits : ((d.year.toNat - 1 : Nat) : Int) = d.year - 1 := by omega
  rw [hdigits] at hyears
  rw [daysSinceEpoch, dayNumber_epoch, dayNumber, toDays_eq_daysThrough, epochShift,
    Int.natCast_add, Int.natCast_add, hyears, hmonths]
  by_cases hearly : d.month ≤ 2
  · rw [if_pos hearly, if_pos hearly]
    omega
  · -- Behind February the year has begun, and its leap day is over.
    rw [if_neg hearly, if_neg hearly, daysThrough_eq_pred_add, daysInYear]
    split
    all_goals omega

end ShellQuery.Date
