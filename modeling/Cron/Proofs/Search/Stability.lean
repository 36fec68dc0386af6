import Cron.Proofs.Search.Completeness

/-! # Later references find the same

What a search has found is found again from every reference before it. The later search may start
in the middle of a unit that the earlier one left as a whole, but what refused the beginning of that
unit refuses the rest of it as well. So the later search gets the same verdict there and resumes at
the same instant, and from then on the two are one search; the later one never takes more steps.

Main statements: `judge_eq_of_sameUnit` and `Verdict.resume_eq_of_sameUnit`, that a unit is left
alike from each of its minutes, `run_found_of_le`, and `next?_stable`.
-/

namespace Cron.Search

open Calendar

variable {e : Expression}

/-! ## A unit is left alike from each of its minutes -/

namespace Verdict

variable {v : Verdict} {x y : Instant}

/-- What a verdict says of an instant is true of all its unit. -/
theorem Describes.of_sameUnit (hv : v.Describes e x) (h : v.SameUnit x y) : v.Describes e y := by
  cases v with
  | wrongMonth =>
    show ¬ e.month.accepts y.date.month
    rw [h.2]
    exact hv
  | wrongDay =>
    have hdate : y.date = x.date := h
    show e.month.accepts y.date.month ∧ ¬ e.DayRule y.date
    rw [hdate]
    exact hv
  | wrongHour =>
    show e.month.accepts y.date.month ∧ e.DayRule y.date ∧ ¬ e.hour.accepts y.hour
    rw [h.1, h.2]
    exact hv
  | wrongMinute =>
    show e.month.accepts y.date.month ∧ e.DayRule y.date ∧ e.hour.accepts y.hour ∧
      ¬ e.minute.accepts y.minute
    rw [h.1, h.2.1, h.2.2]
    exact hv
  | fires =>
    show e.month.accepts y.date.month ∧ e.DayRule y.date ∧ e.hour.accepts y.hour ∧
      e.minute.accepts y.minute
    rw [h.1, h.2.1, h.2.2]
    exact hv

/-- One verdict alone is true of an instant. -/
theorem Describes.judge_eq (hv : v.Describes e x) : judge e x = v := by
  cases v with
  | wrongMonth =>
    have hmonth : ¬ e.month.accepts x.date.month := hv
    simp [judge, hmonth]
  | wrongDay =>
    obtain ⟨hmonth, hday⟩ := hv
    rw [← Expression.dayAccepts_eq_true_iff] at hday
    simp [judge, hmonth, hday]
  | wrongHour => exact judge_eq_wrongHour hv.1 hv.2.1 hv.2.2
  | wrongMinute => exact judge_eq_wrongMinute hv.1 hv.2.1 hv.2.2.1 hv.2.2.2
  | fires => exact judge_eq_fires_iff.2 hv

/-- A unit lies within a year. -/
theorem SameUnit.year_eq (h : v.SameUnit x y) : y.date.year = x.date.year := by
  cases v with
  | wrongMonth => exact h.1
  | wrongDay => exact congrArg Date.year h
  | wrongHour => exact congrArg Date.year h.1
  | wrongMinute => exact congrArg Date.year h.1
  | fires => exact congrArg Date.year h.1

/-- A search resumes at the same instant from all of a unit. -/
theorem resume_eq_of_sameUnit (hrest : x.SameRest y) (h : v.SameUnit x y) :
    v.resume y = v.resume x := by
  cases v with
  | wrongMonth => exact Instant.nextMonth_congr hrest h.1 h.2
  | wrongDay => exact Instant.nextDay_congr hrest h
  | wrongHour => exact Instant.nextHour_congr hrest h.1 h.2
  | wrongMinute => exact Instant.nextMinute_congr hrest h.1 h.2.1 h.2.2
  | fires => exact Instant.nextMinute_congr hrest h.1 h.2.1 h.2.2

end Verdict

/-- All of a unit gets the verdict of its beginning. -/
theorem judge_eq_of_sameUnit {x y : Instant} (h : (judge e x).SameUnit x y) :
    judge e y = judge e x :=
  ((Verdict.describes_judge e x).of_sameUnit h).judge_eq

/-! ## Runs from a later cursor -/

/-- **A later cursor finds the same**: a run that finds `t` from one whole minute finds it with as
many steps from every whole minute between the two. -/
theorem run_found_of_le {n : Nat} {c c' : Cursor} {t : Instant} (h : run e n c = .found t)
    (hc : c.instant.IsWholeMinute) (hc' : c'.instant.IsWholeMinute)
    (hoffset : c'.instant.offset = c.instant.offset)
    (hle : c.instant.minutes ≤ c'.instant.minutes) (hle' : c'.instant.minutes ≤ t.minutes)
    (hyears : c.lastYear ≤ c'.lastYear) : run e n c' = .found t := by
  -- by induction on the steps, until the earlier run leaves the unit that the later cursor is in
  induction n generalizing c with
  | zero => cases h
  | succ n ih =>
    obtain ⟨-, hrun⟩ | ⟨-, -, hrun⟩ | ⟨hin, hne, ⟨x, hx, hrun⟩ | ⟨err, -, hrun⟩⟩ :=
      run_succ_cases e n c
    · rw [hrun] at h
      cases h
    · -- the earlier run stands at `t`, and no whole minute lies between
      rw [hrun] at h
      cases h
      have heq : c'.instant = c.instant :=
        Instant.eq_of_minutes_eq hc' hc hoffset (Nat.le_antisymm hle' hle)
      exact run_found_mono hrun (Nat.le_refl _) hyears heq
    · rw [hrun] at h
      have hrest : c.instant.SameRest x := Verdict.sameRest_resume hx
      by_cases hpassed : x.minutes ≤ c'.instant.minutes
      · -- the unit lies behind the later cursor, which has a step to spare
        have hx' : x.IsWholeMinute := hrest.isWholeMinute hc
        have hfound : run e n c' = .found t :=
          ih h hx' (hoffset.trans hrest.2.2.symm) hpassed hyears
        exact run_found_mono hfound (Nat.le_succ n) (Int.le_refl _) rfl
      · -- the later cursor is in the unit, so both runs resume at `x`
        have hunit : (judge e c.instant).SameUnit c.instant c'.instant :=
          Verdict.sameUnit_of_notReachedBy hle (Instant.notReachedBy_of_ok hx (by omega))
        have hverdict : judge e c'.instant = judge e c.instant := judge_eq_of_sameUnit hunit
        have hin' : c'.isOut = false := by
          have hyear : ¬ c.lastYear < c.instant.date.year := of_decide_eq_false hin
          apply decide_eq_false
          rw [hunit.year_eq]
          omega
        have hx' : (judge e c'.instant).resume c'.instant = .ok x := by
          rw [hverdict, ← hx]
          exact Verdict.resume_eq_of_sameUnit
            (Instant.sameRest_of_isWholeMinute hc hc' hoffset) hunit
        rw [← hverdict] at hne
        rw [run_of_resume hin' hne hx']
        exact run_found_mono h (Nat.le_refl n) hyears rfl
    · rw [hrun] at h
      cases h

/-! ## Searches from a later reference -/

/-- **Stability**: what a search finds from one reference is found from every later reference
before it that has the same offset, in the same bounds or in wider ones. The bounds need not suffice
for anything else: nearer to what is found a search never takes more steps. -/
theorem next?_stable {r r' t : Instant} {settings wider : Settings}
    (h : next? e settings r = some t) (hyears : settings.horizonYears ≤ wider.horizonYears)
    (hsteps : settings.maxSteps ≤ wider.maxSteps) (hoffset : r'.offset = r.offset)
    (hle : r ≤ r') (hlt : r' < t) : next? e wider r' = some t := by
  have hfound : outcome e settings r = .found t := next?_eq_some_iff.1 h
  obtain ⟨hfirst, start, hstart, -⟩ := firstAfter_of_found hfound
  obtain ⟨start', -, hstart'⟩ := exists_firstMinuteAfter hfirst.isWholeMinute hlt
  -- the later search starts between the start of the earlier one and what that found
  have hbetween : start.minutes ≤ start'.minutes :=
    (Instant.le_iff_minutes_le hstart.isWholeMinute hstart'.isWholeMinute).1
      (FirstMinuteAfter.mono hstart hstart' hle)
  have hbefore : start'.minutes ≤ t.minutes :=
    (Instant.le_iff_minutes_le hstart'.isWholeMinute hfirst.isWholeMinute).1
      ((hstart'.lt_iff hfirst.isWholeMinute).1 hlt)
  have hoffsets : start'.offset = start.offset :=
    hstart'.offset_eq.trans (hoffset.trans hstart.offset_eq.symm)
  have hlast : start.date.year + settings.horizonYears ≤
      start'.date.year + wider.horizonYears := by
    have hyear := Instant.year_le_of_minutes_le hbetween
    omega
  rw [outcome_eq_run hstart] at hfound
  have hsame : run e settings.maxSteps.toNat
      ⟨start', start'.date.year + wider.horizonYears, 0⟩ = .found t :=
    run_found_of_le hfound hstart.isWholeMinute hstart'.isWholeMinute hoffsets hbetween hbefore
      hlast
  rw [next?_eq_some_iff, outcome_eq_run hstart']
  exact run_found_mono hsame (Int.toNat_le_toNat hsteps) (Int.le_refl _) rfl

/-- From the leap day of 1896 the search for the next one takes 313 steps, of which none can be
spared. With as many it is found from within a month that was left as a whole. -/
theorem next?_stable_leap_day : ∃ r r' t,
    Instant.ofString? "1896-02-29T23:59:59.999999+05:30" = some r ∧
    Instant.ofString? "1903-08-17T17:45:10+05:30" = some r' ∧
    Instant.ofString? "1904-02-29T00:00:00+05:30" = some t ∧
    next? leapDay ⟨8, 312⟩ r = none ∧ next? leapDay ⟨8, 313⟩ r = some t ∧
    r'.offset = r.offset ∧ r ≤ r' ∧ r' < t ∧ next? leapDay ⟨8, 313⟩ r' = some t := by
  refine ⟨_, _, _, rfl, rfl, rfl, ?none, ?found, rfl, ?le, ?lt,
    next?_stable ?found (Int.le_refl 8) (Int.le_refl 313) rfl ?le ?lt⟩
  case none => decide +kernel
  case found => decide +kernel
  case le => decide +kernel
  case lt => decide +kernel

end Cron.Search
