import Cron.Proofs.Calendar.Order

/-! # What recurs in the calendar

Leap years are never more than eight years apart, and a month has every weekday within its first
seven days. So a day of a month comes again within eight years, and a weekday of a month in every
year. The length of a month is the one of a common year but for February of a leap year. Days that
every month has come again within 31 days, and weekdays within seven.

Main statements: `exists_leap_year`, `Date.exists_day`, `Date.exists_weekday`,
`Date.exists_weekday_after` and `Date.exists_day_after`.
-/

namespace Cron.Calendar

/-! ## Lengths of months -/

/-- The number of days of a month, in a leap year or in a common one. -/
def monthLength (leap : Bool) (month : Nat) : Nat :=
  match month with
  | 2 => if leap then 29 else 28
  | 4 | 6 | 9 | 11 => 30
  | _ => 31

theorem daysInMonth_eq (year month : Nat) :
    daysInMonth year month = monthLength (isLeap year) month :=
  rfl

/-- Leap years have the same months as common ones but for February. -/
theorem monthLength_eq_of_ne {month : Nat} (h : month ≠ 2) (leap leap' : Bool) :
    monthLength leap month = monthLength leap' month := by
  unfold monthLength
  split
  · exact absurd rfl h
  all_goals rfl

/-- A month is longest in a leap year. -/
theorem monthLength_le_leap (leap : Bool) (month : Nat) :
    monthLength leap month ≤ monthLength true month := by
  by_cases h : month = 2
  · subst h
    cases leap <;> decide
  · exact Nat.le_of_eq (monthLength_eq_of_ne h leap true)

/-- A month is shortest in a common year. -/
theorem common_le_monthLength (leap : Bool) (month : Nat) :
    monthLength false month ≤ monthLength leap month := by
  by_cases h : month = 2
  · subst h
    cases leap <;> decide
  · exact Nat.le_of_eq (monthLength_eq_of_ne h false leap)

/-- Only 29 February is a day of leap years alone. -/
theorem eq_leap_day {month day : Nat} (hcommon : monthLength false month < day)
    (hleap : day ≤ monthLength true month) : month = 2 ∧ day = 29 := by
  by_cases h : month = 2
  · subst h
    have hshort : monthLength false 2 = 28 := rfl
    have hlong : monthLength true 2 = 29 := rfl
    exact ⟨rfl, by omega⟩
  · have hsame := monthLength_eq_of_ne h true false
    omega

theorem seven_le_daysInMonth (year month : Nat) : 7 ≤ daysInMonth year month := by
  unfold daysInMonth
  split <;> (try split) <;> omega

/-- Every month has a twenty-eighth day. -/
theorem twentyEight_le_daysInMonth (year month : Nat) : 28 ≤ daysInMonth year month := by
  unfold daysInMonth
  split <;> (try split) <;> omega

/-! ## Leap years -/

/-- Of two multiples of four in a row one is no multiple of a hundred. -/
theorem exists_leap_year (year : Nat) :
    ∃ leap, year < leap ∧ leap ≤ year + 8 ∧ isLeap leap = true := by
  have hfour (k : Nat) (h : k % 4 = 0) (h' : k % 100 ≠ 0) : isLeap k = true := by
    simp [isLeap, h, h']
  by_cases hcentury : (4 * (year / 4 + 1)) % 100 = 0
  · refine ⟨4 * (year / 4 + 2), by omega, by omega, hfour _ (by omega) (by omega)⟩
  · refine ⟨4 * (year / 4 + 1), by omega, by omega, hfour _ (by omega) hcentury⟩

/-! ## Days that come again -/

namespace Date

/-- A day of a month comes in every year in which the month is long enough. -/
theorem exists_day {year month day : Nat} (hyear : 1 ≤ year ∧ year ≤ lastYear)
    (hmonth : 1 ≤ month ∧ month ≤ 12) (hday : 1 ≤ day ∧ day ≤ daysInMonth year month) :
    ∃ d : Date, d.year = year ∧ d.month = month ∧ d.day = day :=
  ⟨⟨year, month, day, hyear.1, hyear.2, hmonth.1, hmonth.2, hday.1, hday.2⟩, rfl, rfl, rfl⟩

/-- Each weekday is among the first seven days of a month. -/
theorem exists_weekday {year month weekday : Nat} (hyear : 1 ≤ year ∧ year ≤ lastYear)
    (hmonth : 1 ≤ month ∧ month ≤ 12) (hweekday : weekday < 7) :
    ∃ d : Date, d.year = year ∧ d.month = month ∧ d.weekday = weekday := by
  -- the number of the day before the month, and the days from there on to the weekday
  let before := daysBeforeYear year + daysBeforeMonth year month
  let day := (weekday + 6 - before % 7) % 7 + 1
  have hlen := seven_le_daysInMonth year month
  obtain ⟨d, hdyear, hdmonth, hdday⟩ : ∃ d : Date, d.year = year ∧ d.month = month ∧ d.day = day :=
    exists_day hyear hmonth ⟨by omega, by omega⟩
  refine ⟨d, hdyear, hdmonth, ?_⟩
  have hordinal : d.ordinal = before + day := by rw [ordinal, hdyear, hdmonth, hdday]
  rw [Date.weekday, hordinal]
  omega

/-- A date has its month and day again within eight years. -/
theorem exists_later (d : Date) {year : Nat} (hyear : year + 8 ≤ lastYear) :
    ∃ d' : Date, year < d'.year ∧ d'.year ≤ year + 8 ∧ d'.month = d.month ∧ d'.day = d.day := by
  obtain ⟨leap, hlt, hle, hleap⟩ := exists_leap_year year
  have hday : d.day ≤ daysInMonth leap d.month := by
    have hlength := monthLength_le_leap (isLeap d.year) d.month
    rw [daysInMonth_eq, hleap]
    exact Nat.le_trans d.day_le hlength
  obtain ⟨d', hyear', hmonth', hday'⟩ := exists_day ⟨by omega, by omega⟩
    ⟨d.one_le_month, d.month_le⟩ ⟨d.one_le_day, hday⟩
  exact ⟨d', by omega, by omega, hmonth', hday'⟩

/-! ### Days soon after -/

/-- By induction on the days in between: before the last year of the calendar a year of days is
ahead. -/
theorem exists_ordinal_add (d : Date) (hyear : d.year < lastYear) {k : Nat} (hk : k ≤ 365) :
    ∃ e : Date, e.ordinal = d.ordinal + k := by
  induction k with
  | zero => exact ⟨d, rfl⟩
  | succ k ih =>
    obtain ⟨e, he⟩ := ih (by omega)
    cases hnext : e.next? with
    | some e' => exact ⟨e', by rw [ordinal_next? hnext, he]; omega⟩
    | none =>
      -- the last day is a year ahead of the days before its year
      exfalso
      obtain ⟨hlast, hmonth, hday⟩ := next?_eq_none hnext
      have hbefore := d.ordinal_le_daysBeforeYear_succ
      have hmono : daysBeforeYear (d.year + 1) ≤ daysBeforeYear lastYear :=
        daysBeforeYear_mono (by omega) hyear
      have hlength : daysBeforeMonth lastYear 12 = 334 := rfl
      rw [ordinal, hlast, hmonth, hday, hlength] at he
      omega

/-- A weekday comes again within seven days. -/
theorem exists_weekday_after (d : Date) (hyear : d.year < lastYear) {weekday : Nat}
    (hweekday : weekday < 7) :
    ∃ e : Date, e.weekday = weekday ∧ d.ordinal < e.ordinal ∧ e.ordinal ≤ d.ordinal + 7 := by
  obtain ⟨e, he⟩ := d.exists_ordinal_add hyear (k := (weekday + 6 - d.ordinal % 7) % 7 + 1) (by omega)
  refine ⟨e, ?_, by omega, by omega⟩
  rw [Date.weekday, he]
  omega

/-- A day that every month has comes again within 31 days, and sooner unless it is today. -/
theorem exists_day_after (d : Date) (hyear : d.year < lastYear) {day : Nat}
    (hday : 1 ≤ day ∧ day ≤ 28) :
    ∃ e : Date, e.day = day ∧ d.ordinal < e.ordinal ∧ e.ordinal ≤ d.ordinal + 31 ∧
      (e.ordinal = d.ordinal + 31 → d.day = day) := by
  have hlength := daysInMonth_le d.year d.month
  have hpast := d.day_le
  by_cases hlater : d.day < day
  · -- later in the month
    have hlong := twentyEight_le_daysInMonth d.year d.month
    obtain ⟨e, heyear, hemonth, heday⟩ :
        ∃ e : Date, e.year = d.year ∧ e.month = d.month ∧ e.day = day :=
      exists_day ⟨d.one_le_year, d.year_le⟩ ⟨d.one_le_month, d.month_le⟩
        ⟨hday.1, Nat.le_trans hday.2 hlong⟩
    have hordinal : e.ordinal + d.day = d.ordinal + day := by
      rw [ordinal, ordinal, heyear, hemonth, heday]
      omega
    exact ⟨e, heday, by omega, by omega, by omega⟩
  · -- in the next month
    cases hnext : d.nextMonth? with
    | none =>
      have hlast := (nextMonth?_eq_none hnext).1
      omega
    | some m =>
      have hfirst := (nextMonth?_eq_some hnext).1
      have hmonth := ordinal_nextMonth? hnext
      have hlong := twentyEight_le_daysInMonth m.year m.month
      obtain ⟨e, heyear, hemonth, heday⟩ :
          ∃ e : Date, e.year = m.year ∧ e.month = m.month ∧ e.day = day :=
        exists_day ⟨m.one_le_year, m.year_le⟩ ⟨m.one_le_month, m.month_le⟩
          ⟨hday.1, Nat.le_trans hday.2 hlong⟩
      have hordinal : e.ordinal + 1 = m.ordinal + day := by
        rw [ordinal, ordinal, heyear, hemonth, heday, hfirst]
        omega
      exact ⟨e, heday, by omega, by omega, by omega⟩

end Date

end Cron.Calendar
