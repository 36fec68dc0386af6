/-! # Dates of the Gregorian calendar

The calendar runs from 1 January of year 1 to 31 December of year 9999, with today's leap rule
throughout. A date is a year, a month and a day that exist together; its successor carries from day
to month to year, and is missing only after the last day.

The main statement is `ordinal_next?`: a day's successor has the next ordinal, so weekdays follow
each other across the ends of months and years.
-/

namespace Cron.Calendar

/-! ## Months and years -/

/-- The last year of the calendar. -/
def lastYear : Nat := 9999

/-- A leap year: every fourth, but of the centuries only every fourth. -/
def isLeap (year : Nat) : Bool :=
  year % 4 == 0 && (year % 100 != 0 || year % 400 == 0)

/-- The number of days of a month. -/
def daysInMonth (year month : Nat) : Nat :=
  match month with
  | 2 => if isLeap year then 29 else 28
  | 4 | 6 | 9 | 11 => 30
  | _ => 31

/-- The number of days of the year before a month. -/
def daysBeforeMonth (year month : Nat) : Nat :=
  let leapDay := if isLeap year then 1 else 0
  match month with
  | 2 => 31
  | 3 => 59 + leapDay
  | 4 => 90 + leapDay
  | 5 => 120 + leapDay
  | 6 => 151 + leapDay
  | 7 => 181 + leapDay
  | 8 => 212 + leapDay
  | 9 => 243 + leapDay
  | 10 => 273 + leapDay
  | 11 => 304 + leapDay
  | 12 => 334 + leapDay
  | _ => 0

/-- The number of days of the calendar before a year. -/
def daysBeforeYear (year : Nat) : Nat :=
  let past := year - 1
  365 * past + (past / 4 - past / 100) + past / 400

theorem daysInMonth_pos (year month : Nat) : 1 ≤ daysInMonth year month := by
  unfold daysInMonth
  split <;> (try split) <;> omega

theorem daysInMonth_le (year month : Nat) : daysInMonth year month ≤ 31 := by
  unfold daysInMonth
  split <;> (try split) <;> omega

/-- The days before a month and the days of that month make up the days before the next. -/
theorem daysBeforeMonth_succ {year month : Nat} (h₁ : 1 ≤ month) (h₂ : month < 12) :
    daysBeforeMonth year (month + 1) = daysBeforeMonth year month + daysInMonth year month := by
  have hm : month = 1 ∨ month = 2 ∨ month = 3 ∨ month = 4 ∨ month = 5 ∨ month = 6 ∨ month = 7 ∨
      month = 8 ∨ month = 9 ∨ month = 10 ∨ month = 11 := by omega
  rcases hm with rfl | rfl | rfl | rfl | rfl | rfl | rfl | rfl | rfl | rfl | rfl <;>
    simp [daysBeforeMonth, daysInMonth] <;> split <;> rfl

/-- December ends the year. -/
theorem daysBeforeYear_succ {year : Nat} (h : 1 ≤ year) :
    daysBeforeYear (year + 1) = daysBeforeYear year + daysBeforeMonth year 12 + 31 := by
  obtain ⟨past, rfl⟩ : ∃ past, year = past + 1 := ⟨year - 1, by omega⟩
  have hle : past / 100 ≤ past / 4 := Nat.div_le_div_left (by decide) (by decide)
  have hdiv (k : Nat) : (past + 1) / k = past / k + if (past + 1) % k = 0 then 1 else 0 := by
    rw [Nat.succ_div]
    simp only [Nat.dvd_iff_mod_eq_zero]
  have h₁ : (past + 1) % 100 = 0 → (past + 1) % 4 = 0 := by omega
  have h₂ : (past + 1) % 400 = 0 → (past + 1) % 100 = 0 := by omega
  -- each quotient grows by one exactly at a multiple, and the leap day follows the same multiples
  simp only [daysBeforeYear, daysBeforeMonth, isLeap, Nat.add_sub_cancel, Bool.and_eq_true,
    Bool.or_eq_true, beq_iff_eq, bne_iff_ne, ne_eq, hdiv]
  generalize past / 4 = q₄ at *
  generalize past / 100 = q₁₀₀ at *
  generalize past / 400 = q₄₀₀ at *
  by_cases c₄ : (past + 1) % 4 = 0 <;> by_cases c₁₀₀ : (past + 1) % 100 = 0 <;>
    by_cases c₄₀₀ : (past + 1) % 400 = 0 <;> simp [c₄, c₁₀₀, c₄₀₀] <;> omega

/-! ## Dates -/

/-- A day of the calendar. -/
@[ext] structure Date where
  /-- The year, 1 to 9999. -/
  year : Nat
  /-- The month, 1 to 12. -/
  month : Nat
  /-- The day of the month, from 1. -/
  day : Nat
  one_le_year : 1 ≤ year
  year_le : year ≤ lastYear
  one_le_month : 1 ≤ month
  month_le : month ≤ 12
  one_le_day : 1 ≤ day
  day_le : day ≤ daysInMonth year month
  deriving DecidableEq

namespace Date

/-- The date of a year, month and day, where there is one. -/
def ofParts? (year month day : Nat) : Option Date :=
  if h : (1 ≤ year ∧ year ≤ lastYear) ∧ (1 ≤ month ∧ month ≤ 12) ∧
      1 ≤ day ∧ day ≤ daysInMonth year month then
    some ⟨year, month, day, h.1.1, h.1.2, h.2.1.1, h.2.1.2, h.2.2.1, h.2.2.2⟩
  else none

/-- The number of the day, where 1 January of year 1 is day 1. -/
def ordinal (d : Date) : Nat :=
  daysBeforeYear d.year + daysBeforeMonth d.year d.month + d.day

/-- The weekday, from Sunday, 0, to Saturday, 6; the calendar begins on a Monday. -/
def weekday (d : Date) : Nat :=
  d.ordinal % 7

theorem weekday_lt (d : Date) : d.weekday < 7 :=
  Nat.mod_lt _ (by decide)

/-- The first day of the month after that of `d`. -/
def nextMonth? (d : Date) : Option Date :=
  if hm : d.month < 12 then
    some ⟨d.year, d.month + 1, 1, d.one_le_year, d.year_le, by omega, by omega, by omega,
      daysInMonth_pos _ _⟩
  else if hy : d.year < lastYear then
    some ⟨d.year + 1, 1, 1, by omega, by omega, by omega, by omega, by omega, daysInMonth_pos _ _⟩
  else none

/-- The day after `d`. -/
def next? (d : Date) : Option Date :=
  if hd : d.day < daysInMonth d.year d.month then
    some ⟨d.year, d.month, d.day + 1, d.one_le_year, d.year_le, d.one_le_month, d.month_le,
      by omega, by omega⟩
  else d.nextMonth?

/-- The first day of a month is as far ahead as days are left in the month before. -/
theorem ordinal_nextMonth? {d e : Date} (h : d.nextMonth? = some e) :
    e.ordinal + d.day = d.ordinal + daysInMonth d.year d.month + 1 := by
  unfold nextMonth? at h
  split at h
  · next hm =>
    cases h
    simp only [ordinal, daysBeforeMonth_succ d.one_le_month hm]
    omega
  · next hm =>
    split at h
    · cases h
      have hm12 : d.month = 12 := by have := d.month_le; omega
      have h1 : daysBeforeMonth (d.year + 1) 1 = 0 := rfl
      have h31 : daysInMonth d.year 12 = 31 := rfl
      simp only [ordinal, daysBeforeYear_succ d.one_le_year, h1, hm12, h31]
      omega
    · cases h

theorem ordinal_next? {d e : Date} (h : d.next? = some e) : e.ordinal = d.ordinal + 1 := by
  unfold next? at h
  split at h
  · cases h
    simp only [ordinal]
    omega
  · have hd := ordinal_nextMonth? h
    have := d.day_le
    omega

end Date

end Cron.Calendar
