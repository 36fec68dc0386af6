import Cron.Calendar.Instant

/-! # The order of the calendar

Days are numbered through the calendar, and the numbers follow the order in which dates are read:
the year decides, then the month, then the day. So a date is determined by its number, and a whole
minute with a given offset by the number of its minute. The moves to the next month, day, hour and
minute are described by the fields they change.

Main statements: `Date.ordinal_lt_iff`, `Date.ordinal_injective`, `Instant.lt_iff_of_isWholeMinute`
and `Instant.eq_of_minutes_eq`.
-/

namespace Cron.Calendar

/-! ## Lengths of years and months -/

/-- A year has 365 or 366 days. -/
theorem daysBeforeYear_succ_bounds (year : Nat) (h : 1 ≤ year) :
    daysBeforeYear year + 365 ≤ daysBeforeYear (year + 1) ∧
      daysBeforeYear (year + 1) ≤ daysBeforeYear year + 366 := by
  have hsucc := daysBeforeYear_succ h
  -- December begins after 334 or 335 days
  have hdec : daysBeforeMonth year 12 = 334 ∨ daysBeforeMonth year 12 = 335 := by
    simp only [daysBeforeMonth]
    split <;> simp
  omega

theorem daysBeforeYear_mono {year later : Nat} (h : 1 ≤ year) (hle : year ≤ later) :
    daysBeforeYear year ≤ daysBeforeYear later := by
  induction later with
  | zero => omega
  | succ y ih =>
    rcases Nat.eq_or_lt_of_le hle with rfl | hlt
    · exact Nat.le_refl _
    · have hy : year ≤ y := by omega
      have hstep := (daysBeforeYear_succ_bounds y (by omega)).1
      have := ih hy
      omega

/-- Years in a row have at most 366 days each. -/
theorem daysBeforeYear_add_le {year : Nat} (h : 1 ≤ year) (n : Nat) :
    daysBeforeYear (year + n) ≤ daysBeforeYear year + 366 * n := by
  induction n with
  | zero => simp
  | succ n ih =>
    calc daysBeforeYear (year + (n + 1))
        ≤ daysBeforeYear (year + n) + 366 :=
          (daysBeforeYear_succ_bounds (year + n) (by omega)).2
      _ ≤ daysBeforeYear year + 366 * n + 366 := Nat.add_le_add_right ih 366
      _ = daysBeforeYear year + 366 * (n + 1) := by rw [Nat.mul_succ, Nat.add_assoc]

/-- A month ends before a later month of the year begins. -/
theorem daysBeforeMonth_add_daysInMonth_le (year : Nat) {month later : Nat} (h : 1 ≤ month)
    (hlt : month < later) (hle : later ≤ 12) :
    daysBeforeMonth year month + daysInMonth year month ≤ daysBeforeMonth year later := by
  induction later with
  | zero => omega
  | succ m ih =>
    have hstep : daysBeforeMonth year (m + 1) = daysBeforeMonth year m + daysInMonth year m :=
      daysBeforeMonth_succ (by omega) (by omega)
    -- `later` is the month that follows, or the one before it is later as well
    rcases Nat.eq_or_lt_of_le hlt with heq | hlt'
    · have hm : m = month := by omega
      exact Nat.le_of_eq (by rw [hstep, hm])
    · have := ih (by omega) (by omega)
      omega

/-- A month ends before the next year begins. -/
theorem daysBeforeMonth_add_daysInMonth_le_year {year month : Nat} (hy : 1 ≤ year)
    (h : 1 ≤ month) (hle : month ≤ 12) :
    daysBeforeYear year + daysBeforeMonth year month + daysInMonth year month ≤
      daysBeforeYear (year + 1) := by
  have hsucc := daysBeforeYear_succ hy
  have hdec : daysInMonth year 12 = 31 := rfl
  rcases Nat.eq_or_lt_of_le hle with rfl | hlt
  · omega
  · have := daysBeforeMonth_add_daysInMonth_le year h hlt (Nat.le_refl 12)
    omega

/-! ## The order of dates -/

namespace Date

theorem daysBeforeYear_lt_ordinal (d : Date) : daysBeforeYear d.year < d.ordinal := by
  have := d.one_le_day
  unfold ordinal
  omega

theorem ordinal_le_daysBeforeYear_succ (d : Date) : d.ordinal ≤ daysBeforeYear (d.year + 1) := by
  have hmonth := daysBeforeMonth_add_daysInMonth_le_year d.one_le_year d.one_le_month d.month_le
  have := d.day_le
  unfold ordinal
  omega

theorem ordinal_lt_of_year_lt {d e : Date} (h : d.year < e.year) : d.ordinal < e.ordinal := by
  have hd := d.ordinal_le_daysBeforeYear_succ
  have he := e.daysBeforeYear_lt_ordinal
  have hmono : daysBeforeYear (d.year + 1) ≤ daysBeforeYear e.year :=
    daysBeforeYear_mono (by omega) h
  omega

theorem ordinal_lt_of_month_lt {d e : Date} (hy : d.year = e.year) (h : d.month < e.month) :
    d.ordinal < e.ordinal := by
  have hd := d.day_le
  have he := e.one_le_day
  have hmonth := daysBeforeMonth_add_daysInMonth_le d.year d.one_le_month h e.month_le
  unfold ordinal
  rw [← hy]
  omega

theorem ordinal_lt_of_day_lt {d e : Date} (hy : d.year = e.year) (hm : d.month = e.month)
    (h : d.day < e.day) : d.ordinal < e.ordinal := by
  unfold ordinal
  rw [hy, hm]
  omega

/-- **Reading order**: the year decides which date is earlier, then the month, then the day. -/
theorem ordinal_lt_iff {d e : Date} :
    d.ordinal < e.ordinal ↔ d.year < e.year ∨ d.year = e.year ∧
      (d.month < e.month ∨ d.month = e.month ∧ d.day < e.day) := by
  constructor
  · -- the part that decides cannot decide the other way, as `e` would be the earlier one then
    intro h
    rcases Nat.lt_trichotomy d.year e.year with hy | hy | hy
    · exact Or.inl hy
    · refine Or.inr ⟨hy, ?_⟩
      rcases Nat.lt_trichotomy d.month e.month with hm | hm | hm
      · exact Or.inl hm
      · refine Or.inr ⟨hm, ?_⟩
        unfold ordinal at h
        rw [hy, hm] at h
        omega
      · have := ordinal_lt_of_month_lt hy.symm hm
        omega
    · have := ordinal_lt_of_year_lt hy
      omega
  · rintro (hy | ⟨hy, hm | ⟨hm, hd⟩⟩)
    · exact ordinal_lt_of_year_lt hy
    · exact ordinal_lt_of_month_lt hy hm
    · exact ordinal_lt_of_day_lt hy hm hd

/-- No two dates have the same number. -/
theorem ordinal_injective {d e : Date} (h : d.ordinal = e.ordinal) : d = e := by
  have hde : ¬ d.ordinal < e.ordinal := by omega
  have hed : ¬ e.ordinal < d.ordinal := by omega
  -- neither is earlier, so they differ in no part
  rw [ordinal_lt_iff] at hde hed
  exact Date.ext (by omega) (by omega) (by omega)

/-! ### Moves between dates -/

/-- The next month begins with its first day; after December comes January. -/
theorem nextMonth?_eq_some {d e : Date} (h : d.nextMonth? = some e) :
    e.day = 1 ∧ (e.year = d.year ∧ e.month = d.month + 1 ∨
      e.year = d.year + 1 ∧ d.month = 12 ∧ e.month = 1) := by
  have hmonth := d.month_le
  unfold nextMonth? at h
  split at h
  · cases h
    exact ⟨rfl, Or.inl ⟨rfl, rfl⟩⟩
  · split at h
    · cases h
      exact ⟨rfl, Or.inr ⟨rfl, by omega, rfl⟩⟩
    · cases h

/-- The days of a month have the same next month. -/
theorem nextMonth?_congr {d e : Date} (hyear : e.year = d.year) (hmonth : e.month = d.month) :
    e.nextMonth? = d.nextMonth? := by
  cases d
  cases e
  cases hyear
  cases hmonth
  rfl

/-- Only the last month of the calendar has no next one. -/
theorem nextMonth?_eq_none {d : Date} (h : d.nextMonth? = none) :
    d.year = lastYear ∧ d.month = 12 := by
  have hmonth := d.month_le
  have hyear := d.year_le
  unfold nextMonth? at h
  split at h
  · cases h
  · split at h
    · cases h
    · exact ⟨by omega, by omega⟩

/-- Only the last day of the calendar has no next one. -/
theorem next?_eq_none {d : Date} (h : d.next? = none) :
    d.year = lastYear ∧ d.month = 12 ∧ d.day = 31 := by
  unfold next? at h
  split at h
  · cases h
  · next hd =>
    -- the month is over and is the last one, so 31 days are over
    obtain ⟨hyear, hmonth⟩ := nextMonth?_eq_none h
    have hlen : daysInMonth d.year 12 = 31 := rfl
    have hday := d.day_le
    rw [hmonth, hlen] at hd hday
    exact ⟨hyear, hmonth, by omega⟩

theorem ordinal_lt_of_nextMonth? {d e : Date} (h : d.nextMonth? = some e) :
    d.ordinal < e.ordinal := by
  have hord := ordinal_nextMonth? h
  have := d.day_le
  omega

end Date

/-! ## The order of instants -/

namespace Instant

/-- Whether a whole minute lies after an instant hangs on the numbers of their minutes alone. -/
theorem lt_iff_of_isWholeMinute {x y : Instant} (hy : y.IsWholeMinute) :
    x < y ↔ x.minutes < y.minutes := by
  have hsecond := x.second_lt
  have hmicro := x.microsecond_lt
  rw [lt_def, ticks_of_isWholeMinute hy, ticks]
  omega

theorem le_iff_minutes_le {x y : Instant} (hx : x.IsWholeMinute) (hy : y.IsWholeMinute) :
    x ≤ y ↔ x.minutes ≤ y.minutes := by
  rw [le_def, ticks_of_isWholeMinute hx, ticks_of_isWholeMinute hy]
  omega

/-- The numbers of minutes are in the order of dates, hours and minutes. -/
theorem minutes_lt_iff {x y : Instant} :
    x.minutes < y.minutes ↔ x.date.ordinal < y.date.ordinal ∨ x.date.ordinal = y.date.ordinal ∧
      (x.hour < y.hour ∨ x.hour = y.hour ∧ x.minute < y.minute) := by
  have hx := x.hour_lt
  have hx' := x.minute_lt
  have hy := y.hour_lt
  have hy' := y.minute_lt
  unfold minutes
  omega

theorem ordinal_le_of_minutes_le {x y : Instant} (h : x.minutes ≤ y.minutes) :
    x.date.ordinal ≤ y.date.ordinal := by
  have hyx : ¬ y.minutes < x.minutes := by omega
  rw [minutes_lt_iff] at hyx
  omega

theorem year_le_of_minutes_le {x y : Instant} (h : x.minutes ≤ y.minutes) :
    x.date.year ≤ y.date.year := by
  have hordinal := ordinal_le_of_minutes_le h
  have hlater : y.date.year < x.date.year → y.date.ordinal < x.date.ordinal :=
    Date.ordinal_lt_of_year_lt
  omega

/-- Whole minutes with one offset differ in nothing that a move keeps. -/
theorem sameRest_of_isWholeMinute {x y : Instant} (hx : x.IsWholeMinute) (hy : y.IsWholeMinute)
    (hoffset : y.offset = x.offset) : x.SameRest y :=
  ⟨hy.1.trans hx.1.symm, hy.2.trans hx.2.symm, hoffset⟩

/-- A whole minute is known by its number and its offset. -/
theorem eq_of_minutes_eq {x y : Instant} (hx : x.IsWholeMinute) (hy : y.IsWholeMinute)
    (hoffset : x.offset = y.offset) (h : x.minutes = y.minutes) : x = y := by
  have hxy : ¬ x.minutes < y.minutes := by omega
  have hyx : ¬ y.minutes < x.minutes := by omega
  rw [minutes_lt_iff] at hxy hyx
  have hdate : x.date = y.date := Date.ordinal_injective (by omega)
  exact Instant.ext hdate (by omega) (by omega) (hx.1.trans hy.1.symm) (hx.2.trans hy.2.symm)
    hoffset

/-! ### Moves between instants -/

/-- The next month or day begins at midnight. -/
theorem nextMonth_eq_ok {x y : Instant} (h : x.nextMonth = .ok y) :
    x.date.nextMonth? = some y.date ∧ y.hour = 0 ∧ y.minute = 0 := by
  unfold nextMonth at h
  split at h
  · next hd =>
    cases h
    exact ⟨hd, rfl, rfl⟩
  · cases h

theorem nextMonth_eq_error {x : Instant} {err : CalendarError} (h : x.nextMonth = .error err) :
    x.date.nextMonth? = none := by
  unfold nextMonth at h
  split at h
  · cases h
  · next hd => exact hd

theorem nextDay_eq_ok {x y : Instant} (h : x.nextDay = .ok y) :
    x.date.next? = some y.date ∧ y.hour = 0 ∧ y.minute = 0 := by
  unfold nextDay at h
  split at h
  · next hd =>
    cases h
    exact ⟨hd, rfl, rfl⟩
  · cases h

theorem nextDay_eq_error {x : Instant} {err : CalendarError} (h : x.nextDay = .error err) :
    x.date.next? = none := by
  unfold nextDay at h
  split at h
  · cases h
  · next hd => exact hd

/-- The next hour lies in the same day, or the day is over. -/
theorem nextHour_eq_ok {x y : Instant} (h : x.nextHour = .ok y) :
    y.date = x.date ∧ y.hour = x.hour + 1 ∧ y.minute = 0 ∨ x.hour = 23 ∧ x.nextDay = .ok y := by
  have hhour := x.hour_lt
  unfold nextHour at h
  split at h
  · cases h
    exact Or.inl ⟨rfl, rfl, rfl⟩
  · exact Or.inr ⟨by omega, h⟩

theorem nextHour_eq_error {x : Instant} {err : CalendarError} (h : x.nextHour = .error err) :
    x.nextDay = .error err := by
  unfold nextHour at h
  split at h
  · cases h
  · exact h

/-- The next minute lies in the same hour, or the hour is over. -/
theorem nextMinute_eq_ok {x y : Instant} (h : x.nextMinute = .ok y) :
    y.date = x.date ∧ y.hour = x.hour ∧ y.minute = x.minute + 1 ∨
      x.minute = 59 ∧ x.nextHour = .ok y := by
  have hminute := x.minute_lt
  unfold nextMinute at h
  split at h
  · cases h
    exact Or.inl ⟨rfl, rfl, rfl⟩
  · exact Or.inr ⟨by omega, h⟩

theorem nextMinute_eq_error {x : Instant} {err : CalendarError} (h : x.nextMinute = .error err) :
    x.nextDay = .error err := by
  unfold nextMinute at h
  split at h
  · cases h
  · exact nextHour_eq_error h

/-! ### Moves from one unit

A move keeps nothing of the unit it leaves but the seconds, microseconds and offset, so it arrives
at the same instant from wherever in that unit it sets out.
-/

section congr

variable {x y : Instant} (hrest : x.SameRest y)

include hrest

theorem atHour_congr (date : Date) (hour : Nat) (hour_lt : hour < 24) :
    y.atHour date hour hour_lt = x.atHour date hour hour_lt := by
  obtain ⟨hsecond, hmicro, hoffset⟩ := hrest
  exact Instant.ext rfl rfl rfl hsecond hmicro hoffset

theorem nextMonth_congr (hyear : y.date.year = x.date.year)
    (hmonth : y.date.month = x.date.month) : y.nextMonth = x.nextMonth := by
  simp only [nextMonth, Date.nextMonth?_congr hyear hmonth, hyear, atHour_congr hrest]

theorem nextDay_congr (hdate : y.date = x.date) : y.nextDay = x.nextDay := by
  simp only [nextDay, hdate, atHour_congr hrest]

theorem nextHour_congr (hdate : y.date = x.date) (hhour : y.hour = x.hour) :
    y.nextHour = x.nextHour := by
  simp only [nextHour, hdate, hhour, atHour_congr hrest, nextDay_congr hrest hdate]

theorem nextMinute_congr (hdate : y.date = x.date) (hhour : y.hour = x.hour)
    (hminute : y.minute = x.minute) : y.nextMinute = x.nextMinute := by
  have heq : y = x := Instant.ext hdate hhour hminute hrest.1 hrest.2.1 hrest.2.2
  rw [heq]

end congr

/-! ### What lies before a move arrives

Each move is told what it passes over: an instant that is not before `x`, and that the move from
`x` does not reach, lies in the unit that the move leaves. A move that fails arrives nowhere, so
the same holds of every later instant of the calendar.
-/

/-- The move arrives after `y`, if it arrives at all. -/
def NotReachedBy (y : Instant) (move : Except CalendarError Instant) : Prop :=
  ∀ z, move = .ok z → y.minutes < z.minutes

section passed

variable {x y z : Instant}

theorem notReachedBy_of_ok {move : Except CalendarError Instant} (h : move = .ok z)
    (hlt : y.minutes < z.minutes) : y.NotReachedBy move := by
  intro w hw
  rw [h] at hw
  cases hw
  exact hlt

theorem notReachedBy_of_error {move : Except CalendarError Instant} {err : CalendarError}
    (h : move = .error err) : y.NotReachedBy move := by
  intro w hw
  rw [h] at hw
  cases hw

theorem sameMonth_of_notReachedBy (hle : x.minutes ≤ y.minutes)
    (h : y.NotReachedBy x.nextMonth) :
    y.date.year = x.date.year ∧ y.date.month = x.date.month := by
  have hyx : ¬ y.date.ordinal < x.date.ordinal := by
    have := ordinal_le_of_minutes_le hle
    omega
  rw [Date.ordinal_lt_iff] at hyx
  cases hz : x.nextMonth with
  | ok z =>
    -- `y` is before the first day of the next month, which is in this year or the next
    obtain ⟨hdate, hhour, hminute⟩ := nextMonth_eq_ok hz
    obtain ⟨hday, hmonth⟩ := Date.nextMonth?_eq_some hdate
    have hlt := h z hz
    have hjan := y.date.one_le_month
    have hdec := y.date.month_le
    have hfirst := y.date.one_le_day
    rw [minutes_lt_iff, Date.ordinal_lt_iff] at hlt
    omega
  | error err =>
    -- no month comes after December of the last year, so `y` cannot be past it
    obtain ⟨hyear, hmonth⟩ := Date.nextMonth?_eq_none (nextMonth_eq_error hz)
    have := y.date.year_le
    have := y.date.month_le
    omega

theorem sameDay_of_notReachedBy (hle : x.minutes ≤ y.minutes)
    (h : y.NotReachedBy x.nextDay) : y.date = x.date := by
  have hyx := ordinal_le_of_minutes_le hle
  cases hz : x.nextDay with
  | ok z =>
    obtain ⟨hdate, hhour, hminute⟩ := nextDay_eq_ok hz
    have hnext := Date.ordinal_next? hdate
    have hlt := h z hz
    rw [minutes_lt_iff] at hlt
    exact Date.ordinal_injective (by omega)
  | error err =>
    -- `x` lies on the last day of the calendar
    obtain ⟨hyear, hmonth, hday⟩ := Date.next?_eq_none (nextDay_eq_error hz)
    have hyear' := y.date.year_le
    have hmonth' := y.date.month_le
    have hday' : y.date.day ≤ 31 := Nat.le_trans y.date.day_le (daysInMonth_le _ _)
    have hxy : ¬ x.date.ordinal < y.date.ordinal := by
      rw [Date.ordinal_lt_iff]
      omega
    exact Date.ordinal_injective (by omega)

theorem sameHour_of_notReachedBy (hle : x.minutes ≤ y.minutes)
    (h : y.NotReachedBy x.nextHour) :
    y.date = x.date ∧ y.hour = x.hour := by
  have hyx : ¬ y.minutes < x.minutes := by omega
  rw [minutes_lt_iff] at hyx
  by_cases hlast : x.hour + 1 < 24
  · have hz : x.nextHour = .ok (x.atHour x.date (x.hour + 1) hlast) := by
      rw [nextHour, dif_pos hlast]
    have hlt := h _ hz
    rw [minutes_lt_iff] at hlt
    simp only [atHour] at hlt
    exact ⟨Date.ordinal_injective (by omega), by omega⟩
  · -- the last hour of the day is left together with the day
    have hz : x.nextHour = x.nextDay := by rw [nextHour, dif_neg hlast]
    rw [hz] at h
    have hdate : y.date = x.date := sameDay_of_notReachedBy hle h
    have hhour := y.hour_lt
    rw [hdate] at hyx
    exact ⟨hdate, by omega⟩

theorem sameMinute_of_notReachedBy (hle : x.minutes ≤ y.minutes)
    (h : y.NotReachedBy x.nextMinute) :
    y.date = x.date ∧ y.hour = x.hour ∧ y.minute = x.minute := by
  have hyx : ¬ y.minutes < x.minutes := by omega
  rw [minutes_lt_iff] at hyx
  by_cases hlast : x.minute + 1 < 60
  · have hz : x.nextMinute = .ok { x with minute := x.minute + 1, minute_lt := hlast } := by
      rw [nextMinute, dif_pos hlast]
    have hlt := h _ hz
    rw [minutes_lt_iff] at hlt
    dsimp only at hlt
    exact ⟨Date.ordinal_injective (by omega), by omega, by omega⟩
  · -- the last minute of the hour is left together with the hour
    have hz : x.nextMinute = x.nextHour := by rw [nextMinute, dif_neg hlast]
    rw [hz] at h
    obtain ⟨hdate, hhour⟩ := sameHour_of_notReachedBy hle h
    have hminute := y.minute_lt
    rw [hdate, hhour] at hyx
    exact ⟨hdate, hhour, by omega⟩

end passed

end Instant

end Cron.Calendar
