import Cron.Proofs.Search.Completeness

/-! # Which expressions fire

Whether an expression that was read ever fires is told by the months and days that its fields
accept. Minutes, hours and weekdays are no obstacle: their fields accept something, and every month
has all weekdays. So an expression fires in every year, or never, or on leap days alone, which is
the case when its day rule asks for a day that its months have in leap years only.

Main statements: `exists_fires_of_firesYearly`, `not_fires_of_firesNever` and `leapDay_of_fires`.
-/

namespace Cron

open Calendar

/-! ## Kinds of expressions -/

namespace Expression

variable {e : Expression} {text : String}

/-- The months of a year that the month field accepts. -/
def months (e : Expression) : List Nat :=
  (List.range' 1 12).filter fun month => e.month.accepts month

/-- The days of a month that the day field accepts. -/
def days (e : Expression) : List Nat :=
  (List.range' 1 31).filter fun day => e.day.accepts day

/-- **Yearly**: some month is accepted, and the day rule leaves the day open, admits weekdays, or
admits a day that an accepted month has in common years. -/
def FiresYearly (e : Expression) : Prop :=
  e.months ≠ [] ∧ (e.day.isWildcard ∨ ¬ e.weekday.isWildcard ∨
    ∃ day ∈ e.days, ∃ month ∈ e.months, day ≤ monthLength false month)

/-- **Never**: no month is accepted, or the day rule asks for a day that the accepted months do not
have even in leap years. -/
def FiresNever (e : Expression) : Prop :=
  e.months = [] ∨ ¬ e.day.isWildcard ∧ e.weekday.isWildcard ∧
    ¬ ∃ day ∈ e.days, ∃ month ∈ e.months, day ≤ monthLength true month

instance (e : Expression) : Decidable e.FiresYearly := inferInstanceAs (Decidable (_ ∧ _))
instance (e : Expression) : Decidable e.FiresNever := inferInstanceAs (Decidable (_ ∨ _))

theorem mem_months_iff {month : Nat} :
    month ∈ e.months ↔ (1 ≤ month ∧ month ≤ 12) ∧ e.month.accepts month := by
  have hrange : month ∈ List.range' 1 12 ↔ 1 ≤ month ∧ month ≤ 12 := by
    rw [List.mem_range'_1]
    omega
  rw [months, List.mem_filter, hrange]

theorem mem_days_iff {day : Nat} :
    day ∈ e.days ↔ (1 ≤ day ∧ day ≤ 31) ∧ e.day.accepts day := by
  have hrange : day ∈ List.range' 1 31 ↔ 1 ≤ day ∧ day ≤ 31 := by
    rw [List.mem_range'_1]
    omega
  rw [days, List.mem_filter, hrange]

/-! ## The day rule -/

/-- The weekday may decide as soon as the day is left open or the weekday is not. -/
theorem dayRule_of_fitsWeekday {d : Date} (h : e.day.isWildcard ∨ ¬ e.weekday.isWildcard)
    (hfits : FitsWeekday e.weekday d) : e.DayRule d := by
  unfold DayRule
  by_cases hday : e.day.isWildcard
  · rw [if_pos hday]
    exact Or.inr hfits
  · rw [if_neg hday, if_neg (h.resolve_left hday)]
    exact Or.inr hfits

/-- A day that is not left open may decide. -/
theorem dayRule_of_accepts {d : Date} (hday : ¬ e.day.isWildcard) (h : e.day.accepts d.day) :
    e.DayRule d := by
  unfold DayRule
  rw [if_neg hday]
  split
  · exact h
  · exact Or.inl h

/-- Where only the day is asked for, it has to be accepted. -/
theorem accepts_of_dayRule {d : Date} (hday : ¬ e.day.isWildcard) (hweekday : e.weekday.isWildcard)
    (h : e.DayRule d) : e.day.accepts d.day := by
  unfold DayRule at h
  rw [if_neg hday, if_pos hweekday] at h
  exact h

/-- Every month has a day with a weekday that the weekday field accepts. -/
theorem exists_fitsWeekday (hread : Expression.read text = .ok e) {year month : Nat}
    (hyear : 1 ≤ year ∧ year ≤ lastYear) (hmonth : 1 ≤ month ∧ month ≤ 12) :
    ∃ d : Date, d.year = year ∧ d.month = month ∧ FitsWeekday e.weekday d := by
  obtain ⟨v, ⟨hmin, hmax⟩, haccepts⟩ := exists_accepts_of_read (n := .weekday) hread (by decide)
  obtain ⟨weekday, rfl⟩ := Int.eq_ofNat_of_zero_le hmin
  change e.weekday.accepts weekday = true at haccepts
  change (weekday : Int) ≤ 7 at hmax
  -- weekday 7 is Sunday, which has the number 0 in the calendar
  obtain ⟨d, hdyear, hdmonth, hdweekday⟩ : ∃ d : Date, d.year = year ∧ d.month = month ∧
      d.weekday = weekday % 7 :=
    Date.exists_weekday hyear hmonth (Nat.mod_lt _ (by decide))
  refine ⟨d, hdyear, hdmonth, ?_⟩
  by_cases hsunday : weekday = 7
  · subst hsunday
    exact Or.inr ⟨hdweekday, haccepts⟩
  · left
    rw [hdweekday, Nat.mod_eq_of_lt (by omega)]
    exact haccepts

/-! ## What the kinds say -/

/-- A yearly expression accepts a date of every year. -/
theorem exists_date_of_firesYearly (hread : Expression.read text = .ok e) (h : e.FiresYearly)
    {year : Nat} (hyear : 1 ≤ year ∧ year ≤ lastYear) :
    ∃ d : Date, d.year = year ∧ e.month.accepts d.month ∧ e.DayRule d := by
  obtain ⟨hmonths, hdays⟩ := h
  -- either the weekday may decide, or the day has to
  by_cases hopen : e.day.isWildcard ∨ ¬ e.weekday.isWildcard
  · obtain ⟨month, hmonth⟩ := List.exists_mem_of_ne_nil _ hmonths
    obtain ⟨hbounds, haccepts⟩ := mem_months_iff.1 hmonth
    obtain ⟨d, hdyear, hdmonth, hfits⟩ := exists_fitsWeekday hread hyear hbounds
    refine ⟨d, hdyear, ?_, dayRule_of_fitsWeekday hopen hfits⟩
    rw [hdmonth]
    exact haccepts
  · have hday : ¬ e.day.isWildcard := fun hwild => hopen (Or.inl hwild)
    obtain ⟨day, hday_mem, month, hmonth, hle⟩ :
        ∃ day ∈ e.days, ∃ month ∈ e.months, day ≤ monthLength false month := by
      rw [← or_assoc] at hdays
      exact hdays.resolve_left hopen
    obtain ⟨hbounds, haccepts⟩ := mem_months_iff.1 hmonth
    obtain ⟨hday_bounds, hday_accepts⟩ := mem_days_iff.1 hday_mem
    have hlength : day ≤ daysInMonth year month := Nat.le_trans hle (common_le_monthLength _ month)
    obtain ⟨d, hdyear, hdmonth, hdday⟩ :=
      Date.exists_day hyear hbounds ⟨hday_bounds.1, hlength⟩
    refine ⟨d, hdyear, ?_, dayRule_of_accepts hday ?_⟩
    · rw [hdmonth]
      exact haccepts
    · rw [hdday]
      exact hday_accepts

theorem month_mem_of_fires {x : Instant} (h : e.Fires x) : x.date.month ∈ e.months :=
  mem_months_iff.2 ⟨⟨x.date.one_le_month, x.date.month_le⟩, h.1⟩

theorem day_mem_of_fires {x : Instant} (hday : ¬ e.day.isWildcard)
    (hweekday : e.weekday.isWildcard) (h : e.Fires x) : x.date.day ∈ e.days := by
  have hmax : x.date.day ≤ 31 := Nat.le_trans x.date.day_le (daysInMonth_le _ _)
  exact mem_days_iff.2 ⟨⟨x.date.one_le_day, hmax⟩, accepts_of_dayRule hday hweekday h.2.1⟩

theorem day_le_of_date (d : Date) : d.day ≤ monthLength true d.month :=
  Nat.le_trans d.day_le (monthLength_le_leap _ _)

theorem not_fires_of_firesNever (h : e.FiresNever) (x : Instant) : ¬ e.Fires x := by
  intro hfires
  have hmonth := month_mem_of_fires hfires
  rcases h with hnone | ⟨hday, hweekday, hshort⟩
  · rw [hnone] at hmonth
    cases hmonth
  · exact hshort ⟨_, day_mem_of_fires hday hweekday hfires, _, hmonth, day_le_of_date x.date⟩

/-- What is not yearly fires on leap days, if at all. -/
theorem leapDay_of_fires (h : ¬ e.FiresYearly) {x : Instant} (hfires : e.Fires x) :
    x.date.month = 2 ∧ x.date.day = 29 := by
  have hmonth := month_mem_of_fires hfires
  -- a month is accepted, so it is for want of a day that the expression is not yearly
  have hdays := not_and.1 h (List.ne_nil_of_mem hmonth)
  rw [not_or, not_or] at hdays
  obtain ⟨hday, hweekday, hshort⟩ := hdays
  have hday_mem := day_mem_of_fires hday (Decidable.not_not.1 hweekday) hfires
  have hcommon : monthLength false x.date.month < x.date.day := by
    apply Nat.lt_of_not_le
    intro hle
    exact hshort ⟨_, hday_mem, _, hmonth, hle⟩
  exact eq_leap_day hcommon (day_le_of_date x.date)

/-- A yearly expression fires in every year. -/
theorem exists_fires_of_firesYearly (hread : Expression.read text = .ok e) (h : e.FiresYearly)
    {year : Nat} (hyear : 1 ≤ year ∧ year ≤ lastYear) :
    ∃ x : Instant, x.IsWholeMinute ∧ x.date.year = year ∧ e.Fires x := by
  obtain ⟨d, hdyear, hmonth, hday⟩ := exists_date_of_firesYearly hread h hyear
  obtain ⟨⟨hour, hhour_lt, hhour⟩, minute, hminute_lt, hminute⟩ := exists_time_of_read hread
  exact ⟨⟨d, hour, minute, 0, 0, hhour_lt, hminute_lt, by decide, by decide, none⟩, ⟨rfl, rfl⟩,
    hdyear, hmonth, hday, hhour, hminute⟩

end Expression

/-! ## Searches by kind -/

namespace Search

variable {e : Expression} {text : String}

/-- **Which expressions can fire**: a search for a yearly expression finds something by the end of
the year after its first minute, a search for one that never fires finds nothing, whatever the
bounds, and a search for any other expression finds leap days only. -/
theorem next?_by_kind (hread : Expression.read text = .ok e) :
    (e.FiresYearly → ∀ (r start : Instant) (settings : Settings), FirstMinuteAfter r start →
      start.date.year ≤ 9998 → 1 ≤ settings.horizonYears → 900 ≤ settings.maxSteps →
      ∃ t, next? e settings r = some t ∧ t.date.year ≤ start.date.year + 1) ∧
    (e.FiresNever → ∀ (r : Instant) (settings : Settings), next? e settings r = none) ∧
    (¬ e.FiresYearly → ¬ e.FiresNever → ∀ (r t : Instant) (settings : Settings),
      next? e settings r = some t → t.date.month = 2 ∧ t.date.day = 29) := by
  refine ⟨?yearly, ?never, ?leapDay⟩
  case yearly =>
    intro hkind r start settings hstart hyear hyears hsteps
    obtain ⟨y, hy, hy_year, hfires⟩ : ∃ y : Instant, y.IsWholeMinute ∧
        y.date.year = start.date.year + 1 ∧ e.Fires y :=
      Expression.exists_fires_of_firesYearly hread hkind ⟨by omega, Nat.succ_le_succ hyear⟩
    have hlt : r < y := hstart.lt_of_year_lt hy (by omega)
    exact exists_found_of_fires 1 hstart hy hlt hfires (by omega) hyears hsteps
  case never =>
    intro hkind r settings
    cases hnext : next? e settings r with
    | none => rfl
    | some t =>
      have hfirst : FirstAfter e.Fires r t := firstAfter_of_next? hnext
      exact absurd hfirst.holds (Expression.not_fires_of_firesNever hkind t)
  case leapDay =>
    intro hkind _ r t settings hnext
    have hfirst : FirstAfter e.Fires r t := firstAfter_of_next? hnext
    exact Expression.leapDay_of_fires hkind hfirst.holds

/-- Of the days from the 29th on, 31 May comes every year, 31 June never, and 29 February, asked for
after that of 2096, comes in 2104. -/
theorem next?_by_kind_last_days :
    (∃ e r start, Expression.read "0 0 31 5 *" = .ok e ∧ e.FiresYearly ∧
      Instant.ofString? "2025-12-31T23:59:00" = some r ∧
      Instant.ofString? "2026-01-01T00:00:00" = some start ∧ FirstMinuteAfter r start ∧
      ∃ t, next? e ⟨1, 900⟩ r = some t ∧ t.date.year ≤ start.date.year + 1) ∧
    (∃ e, Expression.read "0 0 31 6 *" = .ok e ∧ e.FiresNever ∧
      ∀ (r : Instant) (settings : Settings), next? e settings r = none) ∧
    (∃ r t, Expression.read "0 0 29 2 *" = .ok leapDay ∧ ¬ leapDay.FiresYearly ∧
      ¬ leapDay.FiresNever ∧ Instant.ofString? "2096-02-29T00:00:00" = some r ∧
      Instant.ofString? "2104-02-29T00:00:00" = some t ∧ next? leapDay ⟨8, 4000⟩ r = some t ∧
      t.date.month = 2 ∧ t.date.day = 29) := by
  refine ⟨?yearly, ?never, ?leapDay⟩
  case yearly =>
    have hread : Expression.read "0 0 31 5 *" = .ok { leapDay with
        day := ⟨"31", [.plain (.single 31)]⟩, month := ⟨"5", [.plain (.single 5)]⟩ } := by rfl
    have hfound := (next?_by_kind hread).1 (by decide)
    refine ⟨_, _, _, hread, by decide, rfl, rfl, ?first, hfound _ _ ⟨1, 900⟩ ?first ?year ?_ ?_⟩
    case first => exact firstMinuteAfter_of_nextMinute rfl
    case year => decide +kernel
    all_goals decide
  case never =>
    have hread : Expression.read "0 0 31 6 *" = .ok { leapDay with
        day := ⟨"31", [.plain (.single 31)]⟩, month := ⟨"6", [.plain (.single 6)]⟩ } := by rfl
    exact ⟨_, hread, by decide, (next?_by_kind hread).2.1 (by decide)⟩
  case leapDay =>
    have hyearly : ¬ leapDay.FiresYearly := by decide
    have hnever : ¬ leapDay.FiresNever := by decide
    refine ⟨_, _, read_leapDay, hyearly, hnever, rfl, rfl, ?found,
      (next?_by_kind read_leapDay).2.2 hyearly hnever _ _ _ ?found⟩
    decide +kernel

end Search

end Cron
