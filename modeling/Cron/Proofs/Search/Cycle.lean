import Cron.Proofs.Calendar.Cycle
import Cron.Proofs.Search.Soundness

/-! # Searches and the cycle of the calendar

An instant and the one a cycle later get the same verdict, as fields are asked for the month, the
day, the weekday and the time of day, but never for the year. So a search and the search that starts
one cycle later go side by side, step for step: they resume one cycle apart and stay within their last
years alike, until one of them ends or the calendar does not go far enough for the later one.

Main statements: `judge_cycleLater`, `Verdict.commutesWithCycle_resume`, `instant?_run_cycleLater`
and `next?_of_later_cycle`.
-/

namespace Cron.Search

open Calendar

variable {e : Expression}

/-! ## Verdicts -/

/-- No field is asked for the year. -/
theorem judge_cycleLater {x : Instant} (h : x.date.year + cycleYears ≤ lastYear) :
    judge e (x.cycleLater h) = judge e x := by
  have hweekday : (x.cycleLater h).date.weekday = x.date.weekday := Date.weekday_cycleLater h
  have hmonth : (x.cycleLater h).date.month = x.date.month := rfl
  have hday : (x.cycleLater h).date.day = x.date.day := rfl
  have hdate : e.dayAccepts (x.cycleLater h).date = e.dayAccepts x.date := by
    simp only [Expression.dayAccepts, Field.acceptsWeekday, hweekday, hday]
  have hhour : (x.cycleLater h).hour = x.hour := rfl
  have hminute : (x.cycleLater h).minute = x.minute := rfl
  simp only [judge, hmonth, hdate, hhour, hminute]

/-- From instants one cycle apart a search resumes one cycle apart. -/
theorem Verdict.commutesWithCycle_resume (v : Verdict) :
    Instant.CommutesWithCycle fun x => v.resume x := by
  cases v with
  | wrongMonth => exact Instant.commutesWithCycle_nextMonth
  | wrongDay => exact Instant.commutesWithCycle_nextDay
  | wrongHour => exact Instant.commutesWithCycle_nextHour
  | wrongMinute => exact Instant.commutesWithCycle_nextMinute
  | fires => exact Instant.commutesWithCycle_nextMinute

/-! ## Runs -/

/-- A run finds nothing in the years behind its cursor. -/
theorem year_le_of_run_found {n : Nat} {c : Cursor} {t : Instant} (h : run e n c = .found t) :
    c.instant.date.year ≤ t.date.year := by
  induction n generalizing c with
  | zero => cases h
  | succ n ih =>
    obtain ⟨-, hrun⟩ | ⟨-, -, hrun⟩ | ⟨-, -, ⟨x, hx, hrun⟩ | ⟨err, -, hrun⟩⟩ :=
      run_succ_cases e n c
    · rw [hrun] at h
      cases h
    · rw [hrun] at h
      cases h
      exact Nat.le_refl _
    · rw [hrun] at h
      have hyear : c.instant.date.year ≤ x.date.year :=
        Instant.year_le_of_minutes_le (Nat.le_of_lt (Verdict.minutes_lt_resume hx))
      exact Nat.le_trans hyear (ih h)
    · rw [hrun] at h
      cases h

/-- What is found from a cursor so late is not found one cycle later. -/
theorem bind_cycleLater?_instant?_run (n : Nat) {c : Cursor}
    (h : Calendar.lastYear < c.instant.date.year + cycleYears) :
    (run e n c).instant?.bind Instant.cycleLater? = none := by
  cases hrun : run e n c with
  | found t =>
    have hyear : c.instant.date.year ≤ t.date.year := year_le_of_run_found hrun
    exact Instant.cycleLater?_eq_none (by omega)
  | leftLastYear | calendarEnd | outOfSteps => rfl

/-- The cursor of a run that goes one cycle later, as many steps from its start. -/
def Cursor.cycleLater (c : Cursor) (h : c.instant.date.year + cycleYears ≤ Calendar.lastYear) :
    Cursor :=
  ⟨c.instant.cycleLater h, c.lastYear + cycleYears, c.steps⟩

theorem Cursor.isOut_cycleLater {c : Cursor}
    (h : c.instant.date.year + cycleYears ≤ Calendar.lastYear) :
    (c.cycleLater h).isOut = c.isOut := by
  have hyear : (c.cycleLater h).instant.date.year = c.instant.date.year + cycleYears := rfl
  have hlast : (c.cycleLater h).lastYear = c.lastYear + cycleYears := rfl
  apply decide_eq_decide.2
  rw [hyear, hlast]
  omega

/-- **Runs one cycle apart**: the later run finds what the earlier one finds, one cycle later, as
far as the calendar has it. -/
theorem instant?_run_cycleLater (n : Nat) {c : Cursor}
    (h : c.instant.date.year + cycleYears ≤ lastYear) :
    (run e n (c.cycleLater h)).instant? = (run e n c).instant?.bind Instant.cycleLater? := by
  -- by induction on the steps: both cursors are out, both find, or both resume one cycle apart
  induction n generalizing c with
  | zero => rfl
  | succ n ih =>
    have hout' : (c.cycleLater h).isOut = c.isOut := Cursor.isOut_cycleLater h
    have hverdict : judge e (c.cycleLater h).instant = judge e c.instant := judge_cycleLater h
    have hmove := (judge e c.instant).commutesWithCycle_resume
    obtain ⟨hout, hrun⟩ | ⟨hout, hfires, hrun⟩ | ⟨hout, hne, ⟨z, hz, hrun⟩ | ⟨err, hz, hrun⟩⟩ :=
      run_succ_cases e n (c.cycleLater h)
    · rw [hrun, run_of_isOut (hout'.symm.trans hout)]
      rfl
    · rw [hrun, run_of_fires (hout'.symm.trans hout) (hverdict.symm.trans hfires)]
      exact (Instant.cycleLater?_eq_some h).symm
    · rw [hverdict] at hne hz
      obtain ⟨x, hx, hlater⟩ := (hmove.eq_ok_iff h).1 hz
      obtain ⟨hyear, rfl⟩ := Instant.cycleLater?_eq_some_iff.1 hlater
      rw [hrun, run_of_resume (hout'.symm.trans hout) hne hx]
      exact ih (c := c.moveTo x) hyear
    · rw [hverdict] at hne hz
      rw [hrun]
      cases hx : (judge e c.instant).resume c.instant with
      | error err' =>
        rw [run_of_resume_error (hout'.symm.trans hout) hne hx]
        rfl
      | ok x =>
        -- the calendar ends for the later run, so the earlier one goes on too late to be followed
        rw [run_of_resume (hout'.symm.trans hout) hne hx]
        exact (bind_cycleLater?_instant?_run n (hmove.late_of_error h hz hx)).symm

/-! ## Searches -/

/-- The search from a reference one cycle later, in terms of the earlier one. -/
theorem next?_cycleLater_eq_bind (e : Expression) (settings : Settings) {r : Instant}
    (h : r.date.year + cycleYears ≤ lastYear) :
    next? e settings (r.cycleLater h) = (next? e settings r).bind Instant.cycleLater? := by
  have hmove := Instant.commutesWithCycle_nextMinute
  have hr : r.truncate.date.year + cycleYears ≤ lastYear := h
  have htruncate : (r.cycleLater h).truncate = r.truncate.cycleLater hr := rfl
  unfold next? outcome Cursor.startAfter
  rw [htruncate]
  cases hz : (r.truncate.cycleLater hr).nextMinute with
  | ok z =>
    obtain ⟨x, hx, hlater⟩ := (hmove.eq_ok_iff hr).1 hz
    obtain ⟨hyear, rfl⟩ := Instant.cycleLater?_eq_some_iff.1 hlater
    -- the later search may visit as many years, so its last one is a cycle later
    have hstart : (⟨x.cycleLater hyear, (x.cycleLater hyear).date.year + settings.horizonYears, 0⟩ :
        Cursor) = Cursor.cycleLater ⟨x, x.date.year + settings.horizonYears, 0⟩ hyear := by
      have hlast : ((x.date.year + cycleYears : Nat) : Int) + settings.horizonYears =
          x.date.year + settings.horizonYears + cycleYears := by omega
      exact congrArg (Cursor.mk _ · 0) hlast
    simp only [hx, Except.map, hstart]
    exact instant?_run_cycleLater _ hyear
  | error err =>
    cases hx : r.truncate.nextMinute with
    | ok x => exact (bind_cycleLater?_instant?_run _ (hmove.late_of_error hr hz hx)).symm
    | error err' => rfl

/-- **The search repeats with the calendar**, for every expression and all bounds: from a reference
one cycle later it finds what it finds from the reference itself, one cycle later as well. What is
found so late that the calendar does not have it one cycle later is the only thing not found again,
and nothing else is found instead. -/
theorem next?_of_later_cycle (e : Expression) (settings : Settings) {r : Instant}
    (h : r.date.year + cycleYears ≤ lastYear) :
    (∀ (t : Instant) (ht : t.date.year + cycleYears ≤ lastYear), next? e settings r = some t →
      next? e settings (r.cycleLater h) = some (t.cycleLater ht)) ∧
    ∀ u : Instant, next? e settings (r.cycleLater h) = some u →
      ∃ (t : Instant) (ht : t.date.year + cycleYears ≤ lastYear),
        next? e settings r = some t ∧ u = t.cycleLater ht := by
  have hnext := next?_cycleLater_eq_bind e settings h
  constructor
  · intro t ht hfound
    rw [hnext, hfound]
    exact Instant.cycleLater?_eq_some ht
  · intro u hfound
    rw [hnext] at hfound
    obtain ⟨t, hearlier, hlater⟩ := Option.bind_eq_some_iff.1 hfound
    obtain ⟨ht, hu⟩ := Instant.cycleLater?_eq_some_iff.1 hlater
    exact ⟨t, ht, hearlier, hu.symm⟩

/-- Like 1900 the year 2300 has no leap day, so from that of 2296 it is eight years to the next. -/
theorem next?_of_later_cycle_leap_day :
    ∃ (r t : Instant) (hr : r.date.year + cycleYears ≤ lastYear)
      (ht : t.date.year + cycleYears ≤ lastYear),
      Instant.ofString? "1896-02-29T23:59:59.999999+05:30" = some r ∧
      Instant.ofString? "1904-02-29T00:00:00+05:30" = some t ∧
      Instant.ofString? "2296-02-29T23:59:59.999999+05:30" = some (r.cycleLater hr) ∧
      Instant.ofString? "2304-02-29T00:00:00+05:30" = some (t.cycleLater ht) ∧
      next? leapDay ⟨8, 313⟩ r = some t ∧
      next? leapDay ⟨8, 313⟩ (r.cycleLater hr) = some (t.cycleLater ht) ∧
      ∃ (t' : Instant) (ht' : t'.date.year + cycleYears ≤ lastYear),
        next? leapDay ⟨8, 313⟩ r = some t' ∧ t.cycleLater ht = t'.cycleLater ht' := by
  have hyears : 1896 + cycleYears ≤ lastYear ∧ 1904 + cycleYears ≤ lastYear := by decide
  refine ⟨_, _, hyears.1, hyears.2, rfl, rfl, rfl, rfl, ?found, ?again,
    (next?_of_later_cycle leapDay ⟨8, 313⟩ hyears.1).2 _ ?again⟩
  case found => decide +kernel
  case again =>
    exact (next?_of_later_cycle leapDay ⟨8, 313⟩ hyears.1).1 _ hyears.2 (by decide +kernel)

end Cron.Search
