import Cron.Calendar.Iso
import Cron.Proofs.Search.Termination

/-! # Where searches resume

After each verdict a search resumes with the next unit of the field that the verdict is about: the
next month, day, hour or minute. For whole minutes this is exact. The move arrives at the first
later minute at which such a unit begins, since all that it passes over lies in the unit that it
leaves, and a unit begins only once. It fails just where no such unit begins any more before the
calendar ends. From within a minute the moves are those from its beginning, and the seconds are
carried along.

Main statements: `resume_eq_ok_iff`, `resume_eq_error_iff` and `resume_truncate`.
-/

namespace Cron

/-! ## Moves from within a minute -/

namespace Calendar.Instant

/-- The reading `y` with the seconds and microseconds of `x`. -/
def putBack (x y : Instant) : Instant :=
  { y with
    second := x.second, microsecond := x.microsecond,
    second_lt := x.second_lt, microsecond_lt := x.microsecond_lt }

variable (x : Instant)

theorem nextMonth_truncate : x.nextMonth = x.truncate.nextMonth.map x.putBack := by
  have hdate : x.truncate.date = x.date := rfl
  unfold nextMonth
  rw [hdate]
  cases x.date.nextMonth? <;> rfl

theorem nextDay_truncate : x.nextDay = x.truncate.nextDay.map x.putBack := by
  have hdate : x.truncate.date = x.date := rfl
  unfold nextDay
  rw [hdate]
  cases x.date.next? <;> rfl

theorem nextHour_truncate : x.nextHour = x.truncate.nextHour.map x.putBack := by
  by_cases h : x.hour + 1 < 24
  · have h' : x.truncate.hour + 1 < 24 := h
    rw [nextHour, dif_pos h, nextHour, dif_pos h']
    rfl
  · have h' : ¬ x.truncate.hour + 1 < 24 := h
    rw [nextHour, dif_neg h, nextHour, dif_neg h', nextDay_truncate]

theorem nextMinute_truncate : x.nextMinute = x.truncate.nextMinute.map x.putBack := by
  by_cases h : x.minute + 1 < 60
  · have h' : x.truncate.minute + 1 < 60 := h
    rw [nextMinute, dif_pos h, nextMinute, dif_pos h']
    rfl
  · have h' : ¬ x.truncate.minute + 1 < 60 := h
    rw [nextMinute, dif_neg h, nextMinute, dif_neg h', nextHour_truncate]

/-! ## Moves out of the calendar -/

section error

variable {x} {err : CalendarError}

theorem eq_dateOutOfRange_of_nextDay (h : x.nextDay = .error err) : err = .dateOutOfRange := by
  have hnone := nextDay_eq_error h
  unfold nextDay at h
  rw [hnone] at h
  exact (Except.error.inj h).symm

theorem eq_yearOutOfRange_of_nextMonth (h : x.nextMonth = .error err) :
    err = .yearOutOfRange (lastYear + 1) := by
  have hnone := nextMonth_eq_error h
  have hyear : x.date.year = lastYear := (Date.nextMonth?_eq_none hnone).1
  unfold nextMonth at h
  rw [hnone, hyear] at h
  exact (Except.error.inj h).symm

end error

end Calendar.Instant

namespace Search

open Calendar

namespace Verdict

variable {v : Verdict} {x y : Instant} {err : CalendarError}

theorem resume_truncate (v : Verdict) (x : Instant) :
    v.resume x = (v.resume x.truncate).map x.putBack := by
  cases v with
  | wrongMonth => exact x.nextMonth_truncate
  | wrongDay => exact x.nextDay_truncate
  | wrongHour => exact x.nextHour_truncate
  | wrongMinute | fires => exact x.nextMinute_truncate

/-! ## Beginnings of units -/

/-- With the minute of `x` begins a unit of the field that a verdict is about: a month, a day, an
hour, or the minute itself. -/
def BeginsUnit (v : Verdict) (x : Instant) : Prop :=
  match v with
  | wrongMonth => x.date.day = 1 ∧ x.hour = 0 ∧ x.minute = 0
  | wrongDay => x.hour = 0 ∧ x.minute = 0
  | wrongHour => x.minute = 0
  | wrongMinute | fires => True

/-- A unit begins with its first minute and with no other. -/
theorem not_beginsUnit_of_sameUnit (h : v.SameUnit x y) (hlt : x.minutes < y.minutes) :
    ¬ v.BeginsUnit y := by
  intro hy
  rw [Instant.minutes_lt_iff] at hlt
  cases v with
  | wrongMonth =>
    -- in the month of `x` no day comes before the first
    obtain ⟨hyear, hmonth⟩ := h
    obtain ⟨hday, hhour, hminute⟩ := hy
    have hfirst := x.date.one_le_day
    rw [Date.ordinal_lt_iff] at hlt
    omega
  | wrongDay =>
    have hdate : y.date = x.date := h
    obtain ⟨hhour, hminute⟩ := hy
    rw [hdate] at hlt
    omega
  | wrongHour =>
    obtain ⟨hdate, hhour⟩ := h
    have hminute : y.minute = 0 := hy
    rw [hdate] at hlt
    omega
  | wrongMinute | fires =>
    obtain ⟨hdate, hhour, hminute⟩ := h
    rw [hdate] at hlt
    omega

/-- What a move passes over, or would pass over, lies in the unit that it leaves. -/
theorem not_beginsUnit_of_notReachedBy (hlt : x.minutes < y.minutes)
    (h : y.NotReachedBy (v.resume x)) : ¬ v.BeginsUnit y :=
  not_beginsUnit_of_sameUnit (sameUnit_of_notReachedBy (Nat.le_of_lt hlt) h) hlt

/-- A search resumes at the beginning of a unit. -/
theorem beginsUnit_of_resume (h : v.resume x = .ok y) : v.BeginsUnit y := by
  cases v with
  | wrongMonth =>
    obtain ⟨hdate, hhour, hminute⟩ := Instant.nextMonth_eq_ok h
    exact ⟨(Date.nextMonth?_eq_some hdate).1, hhour, hminute⟩
  | wrongDay => exact (midnight_of_resume (Or.inr rfl) h).2
  | wrongHour => exact (fullHour_of_nextHour h).1
  | wrongMinute | fires => trivial

/-! ## Where a search resumes -/

theorem firstAfter_of_resume (hx : x.IsWholeMinute) (h : v.resume x = .ok y) :
    FirstAfter v.BeginsUnit x y := by
  have hrest := sameRest_resume h
  have hy : y.IsWholeMinute := hrest.isWholeMinute hx
  have hlt : x < y := (Instant.lt_iff_of_isWholeMinute hy).2 (minutes_lt_resume h)
  refine ⟨hy, hrest.2.2, hlt, beginsUnit_of_resume h, ?_⟩
  -- what lies between is passed over
  intro z hz hxz hzy
  rw [Instant.lt_iff_of_isWholeMinute hz] at hxz
  rw [Instant.lt_iff_of_isWholeMinute hy] at hzy
  exact not_beginsUnit_of_notReachedBy hxz (Instant.notReachedBy_of_ok h hzy)

/-- A unit begins after `x`, at a whole minute of the calendar. -/
def SomeUnitAfter (v : Verdict) (x : Instant) : Prop :=
  ∃ y : Instant, y.IsWholeMinute ∧ x < y ∧ v.BeginsUnit y

theorem not_someUnitAfter_of_error (h : v.resume x = .error err) : ¬ v.SomeUnitAfter x := by
  intro hsome
  obtain ⟨y, hy, hlt, hbegins⟩ := hsome
  rw [Instant.lt_iff_of_isWholeMinute hy] at hlt
  exact not_beginsUnit_of_notReachedBy hlt (Instant.notReachedBy_of_error h) hbegins

/-- The minute at which a search resumes begins a unit, whatever its seconds are. -/
theorem someUnitAfter_of_ok (h : v.resume x = .ok y) : v.SomeUnitAfter x := by
  refine ⟨y.truncate, y.isWholeMinute_truncate, ?_, ?_⟩
  · rw [Instant.lt_iff_of_isWholeMinute y.isWholeMinute_truncate, Instant.minutes_truncate]
    exact minutes_lt_resume h
  · have hbegins := beginsUnit_of_resume h
    cases v <;> exact hbegins

/-- **Exactness**: a search resumes at the first later minute that begins a unit. -/
theorem resume_eq_ok_iff (hx : x.IsWholeMinute) :
    v.resume x = .ok y ↔ FirstAfter v.BeginsUnit x y := by
  constructor
  · exact firstAfter_of_resume hx
  · intro hy
    cases hz : v.resume x with
    | ok z => rw [(firstAfter_of_resume hx hz).unique hy]
    | error err =>
      exact absurd ⟨y, hy.isWholeMinute, hy.lt, hy.holds⟩ (not_someUnitAfter_of_error hz)

/-! ### Where it cannot -/

/-- The error of a search that cannot resume: a month would begin in the year after the last, any
other unit on the day after the last. -/
def calendarError : Verdict → CalendarError
  | wrongMonth => .yearOutOfRange (lastYear + 1)
  | wrongDay | wrongHour | wrongMinute | fires => .dateOutOfRange

theorem eq_calendarError_of_error (h : v.resume x = .error err) : err = v.calendarError := by
  cases v with
  | wrongMonth => exact Instant.eq_yearOutOfRange_of_nextMonth h
  | wrongDay => exact Instant.eq_dateOutOfRange_of_nextDay h
  | wrongHour => exact Instant.eq_dateOutOfRange_of_nextDay (Instant.nextHour_eq_error h)
  | wrongMinute | fires =>
    exact Instant.eq_dateOutOfRange_of_nextDay (Instant.nextMinute_eq_error h)

/-- A search cannot resume just where no unit is left to begin. -/
theorem resume_eq_error_iff :
    v.resume x = .error err ↔ err = v.calendarError ∧ ¬ v.SomeUnitAfter x := by
  constructor
  · intro h
    exact ⟨eq_calendarError_of_error h, not_someUnitAfter_of_error h⟩
  · intro h
    obtain ⟨herr, hnone⟩ := h
    cases hy : v.resume x with
    | ok y => exact absurd (someUnitAfter_of_ok hy) hnone
    | error err' => rw [herr, eq_calendarError_of_error hy]

end Verdict

/-- **Where searches resume**: from a whole minute a search resumes at the first later minute of the
calendar that begins a unit, read with the same offset, and it cannot resume just where there is no
such minute. From within a minute it resumes as from the beginning of the minute, with its seconds
and microseconds put back. -/
theorem resume_exact (v : Verdict) (x : Instant) :
    (x.IsWholeMinute →
      (∀ y : Instant, v.resume x = .ok y ↔ FirstAfter v.BeginsUnit x y) ∧
      ∀ err : CalendarError,
        v.resume x = .error err ↔ err = v.calendarError ∧ ¬ v.SomeUnitAfter x) ∧
    v.resume x = (v.resume x.truncate).map x.putBack := by
  refine ⟨?whole, Verdict.resume_truncate v x⟩
  intro hx
  exact ⟨fun _ => Verdict.resume_eq_ok_iff hx, fun _ => Verdict.resume_eq_error_iff⟩

/-- February 1900 had no leap day, so its last hour is followed by the first of March. After the
beginning of the last month of the calendar no month begins, though days do. -/
theorem resume_exact_no_leap_day : ∃ x y z,
    Instant.ofString? "1900-02-28T23:59:00-08:00" = some x ∧
    Instant.ofString? "1900-03-01T00:00:00-08:00" = some y ∧
    Instant.ofString? "9999-12-01T00:00:00" = some z ∧ x.IsWholeMinute ∧ z.IsWholeMinute ∧
    Verdict.wrongHour.resume x = .ok y ∧ FirstAfter Verdict.wrongHour.BeginsUnit x y ∧
    Verdict.wrongMonth.resume z = .error (.yearOutOfRange 10000) ∧
    ¬ Verdict.wrongMonth.SomeUnitAfter z := by
  refine ⟨_, _, _, rfl, rfl, rfl, ?hour, ?month, ?next, ?first, ?last, ?none⟩
  case hour => decide
  case month => decide
  case next => rfl
  case first => exact (((resume_exact _ _).1 (by decide)).1 _).1 rfl
  case last => rfl
  case none =>
    exact ((((resume_exact .wrongMonth _).1 (by decide)).2 (.yearOutOfRange 10000)).1 rfl).2

end Search

end Cron
