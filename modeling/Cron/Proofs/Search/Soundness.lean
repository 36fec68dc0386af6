import Cron.Calendar.Iso
import Cron.Expression.Reader
import Cron.Proofs.Calendar.First
import Cron.Search.Outcome

/-! # Searches skip nothing

A verdict names the coarsest field that refuses an instant, and the search resumes with the next
unit of that field. Everything in the unit that is left is refused by the same field, so nothing
fires between two positions of the cursor. Along a run this is an invariant, `Reached`: the cursor
stands at a whole minute after the reference, and nothing fires in between. At the end of a run it
says what the outcome means, `Outcome.Truthful`, for each of the four ways to end. It also makes it
idle to compare a finding with the reference, which `runAfter` does at every firing instant.

Main statements: `outcome_truthful`, `firstAfter_of_next?` for what a search returns, and
`outcome_eq_runAfter`.
-/

namespace Cron.Search

open Calendar

variable {e : Expression}

/-! ## What a verdict says -/

namespace Verdict

/-- The meaning of a verdict on `x`: the fields accept down to the one that refuses. -/
def Describes (e : Expression) (x : Instant) : Verdict → Prop
  | wrongMonth => ¬ e.month.accepts x.date.month
  | wrongDay => e.month.accepts x.date.month ∧ ¬ e.DayRule x.date
  | wrongHour => e.month.accepts x.date.month ∧ e.DayRule x.date ∧ ¬ e.hour.accepts x.hour
  | wrongMinute => e.month.accepts x.date.month ∧ e.DayRule x.date ∧ e.hour.accepts x.hour ∧
      ¬ e.minute.accepts x.minute
  | fires => e.Fires x

theorem describes_judge (e : Expression) (x : Instant) : (judge e x).Describes e x := by
  unfold judge
  -- each test is made after the coarser ones have been passed
  split
  · next hmonth => simpa [Describes] using hmonth
  split
  · next hmonth hday =>
    simp only [Bool.not_eq_true', Bool.not_eq_false] at hmonth
    exact ⟨hmonth, by simpa [← Expression.dayAccepts_eq_true_iff] using hday⟩
  split
  · next hmonth hday hhour =>
    simp only [Bool.not_eq_true', Bool.not_eq_false] at hmonth hday
    exact ⟨hmonth, Expression.dayAccepts_eq_true_iff.1 hday, by simpa using hhour⟩
  split
  · next hmonth hday hhour hminute =>
    simp only [Bool.not_eq_true', Bool.not_eq_false] at hmonth hday hhour
    exact ⟨hmonth, Expression.dayAccepts_eq_true_iff.1 hday, hhour, by simpa using hminute⟩
  · next hmonth hday hhour hminute =>
    simp only [Bool.not_eq_true', Bool.not_eq_false] at hmonth hday hhour hminute
    exact ⟨hmonth, Expression.dayAccepts_eq_true_iff.1 hday, hhour, hminute⟩

/-- Two instants lie in the unit that a search leaves on a verdict. -/
def SameUnit (x y : Instant) : Verdict → Prop
  | wrongMonth => y.date.year = x.date.year ∧ y.date.month = x.date.month
  | wrongDay => y.date = x.date
  | wrongHour => y.date = x.date ∧ y.hour = x.hour
  | wrongMinute | fires => y.date = x.date ∧ y.hour = x.hour ∧ y.minute = x.minute

/-- What refuses an instant refuses the rest of its unit. -/
theorem not_fires_of_sameUnit {v : Verdict} {x y : Instant} (hv : v.Describes e x)
    (hne : v ≠ .fires) (h : v.SameUnit x y) : ¬ e.Fires y := by
  rintro ⟨hmonth, hday, hhour, hminute⟩
  cases v with
  | wrongMonth =>
    rw [h.2] at hmonth
    exact hv hmonth
  | wrongDay =>
    have hdate : y.date = x.date := h
    rw [hdate] at hday
    exact hv.2 hday
  | wrongHour =>
    rw [h.2] at hhour
    exact hv.2.2 hhour
  | wrongMinute =>
    rw [h.2.2] at hminute
    exact hv.2.2.2 hminute
  | fires => exact hne rfl

/-- A search resumes at or before the end of the unit it leaves. -/
theorem sameUnit_of_notReachedBy {v : Verdict} {x y : Instant} (hle : x.minutes ≤ y.minutes)
    (h : y.NotReachedBy (v.resume x)) : v.SameUnit x y := by
  cases v with
  | wrongMonth => exact Instant.sameMonth_of_notReachedBy hle h
  | wrongDay => exact Instant.sameDay_of_notReachedBy hle h
  | wrongHour => exact Instant.sameHour_of_notReachedBy hle h
  | wrongMinute => exact Instant.sameMinute_of_notReachedBy hle h
  | fires => exact Instant.sameMinute_of_notReachedBy hle h

/-- **No skipping**: where the verdict refuses, nothing fires before the search resumes. -/
theorem not_fires_of_notReachedBy {x y : Instant} (hne : judge e x ≠ .fires)
    (hle : x.minutes ≤ y.minutes) (h : y.NotReachedBy ((judge e x).resume x)) : ¬ e.Fires y :=
  not_fires_of_sameUnit (describes_judge e x) hne (sameUnit_of_notReachedBy hle h)

/-! ### Where a search resumes -/

theorem sameRest_resume {v : Verdict} {x y : Instant} (h : v.resume x = .ok y) : x.SameRest y := by
  cases v with
  | wrongMonth => exact Instant.sameRest_nextMonth h
  | wrongDay => exact Instant.sameRest_nextDay h
  | wrongHour => exact Instant.sameRest_nextHour h
  | wrongMinute => exact Instant.sameRest_nextMinute h
  | fires => exact Instant.sameRest_nextMinute h

/-- A search moves forward. -/
theorem minutes_lt_resume {v : Verdict} {x y : Instant} (h : v.resume x = .ok y) :
    x.minutes < y.minutes := by
  cases v with
  | wrongMonth =>
    have hdate := (Instant.nextMonth_eq_ok h).1
    rw [Instant.minutes_lt_iff]
    exact Or.inl (Date.ordinal_lt_of_nextMonth? hdate)
  | wrongDay =>
    have hdate := Date.ordinal_next? (Instant.nextDay_eq_ok h).1
    rw [Instant.minutes_lt_iff]
    omega
  | wrongHour =>
    have hminutes := Instant.minutes_nextHour h
    have hminute := x.minute_lt
    rw [hminutes, Instant.minutes]
    omega
  | wrongMinute =>
    have hminutes := Instant.minutes_nextMinute h
    omega
  | fires =>
    have hminutes := Instant.minutes_nextMinute h
    omega

end Verdict

/-! ## One step of a run -/

section step

variable {n : Nat} {c : Cursor}

theorem run_of_isOut (hout : c.isOut = true) : run e (n + 1) c = .leftLastYear c := by
  simp [run, hout]

theorem run_of_fires (hout : c.isOut = false) (hfires : judge e c.instant = .fires) :
    run e (n + 1) c = .found c.instant := by
  simp [run, Cursor.step, hout, hfires]

theorem run_of_resume (hout : c.isOut = false) (hne : judge e c.instant ≠ .fires) {x : Instant}
    (hx : (judge e c.instant).resume c.instant = .ok x) :
    run e (n + 1) c = run e n (c.moveTo x) := by
  -- the first row of the match is excluded by `hne`
  simp only [run, hout, Bool.false_eq_true, if_false, Cursor.step, hx, Except.map]

theorem run_of_resume_error (hout : c.isOut = false) (hne : judge e c.instant ≠ .fires)
    {err : CalendarError} (hx : (judge e c.instant).resume c.instant = .error err) :
    run e (n + 1) c = .calendarEnd := by
  simp only [run, hout, Bool.false_eq_true, if_false, Cursor.step, hx, Except.map]

end step

/-- All that a run can do with its next step: leave the last year, find, move on, or meet the end of
the calendar. -/
theorem run_succ_cases (e : Expression) (n : Nat) (c : Cursor) :
    c.isOut = true ∧ run e (n + 1) c = .leftLastYear c ∨
    c.isOut = false ∧ judge e c.instant = .fires ∧ run e (n + 1) c = .found c.instant ∨
    c.isOut = false ∧ judge e c.instant ≠ .fires ∧
      ((∃ x, (judge e c.instant).resume c.instant = .ok x ∧
          run e (n + 1) c = run e n (c.moveTo x)) ∨
        ∃ err, (judge e c.instant).resume c.instant = .error err ∧
          run e (n + 1) c = .calendarEnd) := by
  cases hout : c.isOut with
  | true => exact Or.inl ⟨rfl, run_of_isOut hout⟩
  | false =>
    right
    by_cases hfires : judge e c.instant = .fires
    · exact Or.inl ⟨rfl, hfires, run_of_fires hout hfires⟩
    · refine Or.inr ⟨rfl, hfires, ?_⟩
      cases hx : (judge e c.instant).resume c.instant with
      | ok x => exact Or.inl ⟨x, rfl, run_of_resume hout hfires hx⟩
      | error err => exact Or.inr ⟨err, rfl, run_of_resume_error hout hfires hx⟩

/-! ## The invariant of a run -/

/-- **Invariant**: `x` is a whole minute after the reference, read with the same offset, and nothing
fires strictly between the two. -/
structure Reached (e : Expression) (r x : Instant) : Prop where
  isWholeMinute : x.IsWholeMinute
  offset_eq : x.offset = r.offset
  lt : r < x
  not_between : ∀ y : Instant, y.IsWholeMinute → r < y → y < x → ¬ e.Fires y

namespace Reached

variable {r x y : Instant}

/-- The first minute is reached, with nothing passed over. -/
theorem start (hx : FirstMinuteAfter r x) : Reached e r x where
  isWholeMinute := hx.isWholeMinute
  offset_eq := hx.offset_eq
  lt := hx.lt
  not_between := fun y hy hry hyx => absurd trivial (hx.not_between y hy hry hyx)

/-- What is reached and fires is the first minute to fire. -/
theorem firstAfter (h : Reached e r x) (hfires : e.Fires x) : FirstAfter e.Fires r x where
  isWholeMinute := h.isWholeMinute
  offset_eq := h.offset_eq
  lt := h.lt
  holds := hfires
  not_between := h.not_between

/-- A move on is safe where nothing fires from `x` until the move arrives. -/
theorem advance (h : Reached e r x) (hrest : x.SameRest y) (hforward : x.minutes < y.minutes)
    (hquiet : ∀ z : Instant, x.minutes ≤ z.minutes → z.minutes < y.minutes → ¬ e.Fires z) :
    Reached e r y := by
  have hwhole : y.IsWholeMinute := hrest.isWholeMinute h.isWholeMinute
  have hlt := h.lt
  rw [Instant.lt_iff_of_isWholeMinute h.isWholeMinute] at hlt
  refine ⟨hwhole, hrest.2.2.trans h.offset_eq, ?_, ?_⟩
  · rw [Instant.lt_iff_of_isWholeMinute hwhole]
    omega
  · intro z hz hrz hzy
    rw [Instant.lt_iff_of_isWholeMinute hwhole] at hzy
    -- what lies before `x` has been passed over already
    by_cases hzx : z < x
    · exact h.not_between z hz hrz hzx
    · rw [Instant.lt_iff_of_isWholeMinute h.isWholeMinute] at hzx
      exact hquiet z (by omega) hzy

/-- **Step**: where a search resumes is reached again. -/
theorem resume (h : Reached e r x) (hne : judge e x ≠ .fires)
    (hy : (judge e x).resume x = .ok y) : Reached e r y := by
  refine h.advance (Verdict.sameRest_resume hy) (Verdict.minutes_lt_resume hy) ?_
  intro z hxz hzy
  apply Verdict.not_fires_of_notReachedBy hne hxz
  exact Instant.notReachedBy_of_ok hy hzy

/-- Where nothing fires from `x` on, nothing fires after the reference. -/
theorem not_fires_of_rest (h : Reached e r x)
    (hquiet : ∀ z : Instant, x.minutes ≤ z.minutes → ¬ e.Fires z) (hy : y.IsWholeMinute)
    (hry : r < y) : ¬ e.Fires y := by
  by_cases hyx : y < x
  · exact h.not_between y hy hry hyx
  · rw [Instant.lt_iff_of_isWholeMinute h.isWholeMinute] at hyx
    exact hquiet y (by omega)

/-- The calendar ends within the unit that the search would leave. -/
theorem not_fires_of_resume_error (h : Reached e r x) (hne : judge e x ≠ .fires)
    {err : CalendarError} (hx : (judge e x).resume x = .error err) (hy : y.IsWholeMinute)
    (hry : r < y) : ¬ e.Fires y := by
  apply h.not_fires_of_rest _ hy hry
  intro z hxz
  apply Verdict.not_fires_of_notReachedBy hne hxz
  exact Instant.notReachedBy_of_error hx

/-- What is reached in a later year has passed over every minute of the years before. -/
theorem not_fires_of_year_lt (h : Reached e r x) (hlate : y.date.year < x.date.year)
    (hy : y.IsWholeMinute) (hry : r < y) : ¬ e.Fires y := by
  have hyx : y < x := by
    rw [Instant.lt_iff_of_isWholeMinute h.isWholeMinute, Instant.minutes_lt_iff]
    exact Or.inl (Date.ordinal_lt_of_year_lt hlate)
  exact h.not_between y hy hry hyx

end Reached

/-! ## Looking back at the reference -/

/-- A run that takes a firing instant for its result only if it is after the reference, and else
moves on from it. -/
def runAfter (e : Expression) (r : Instant) : (steps : Nat) → Cursor → Outcome
  | 0, c => .outOfSteps c
  | steps + 1, c =>
    if c.isOut then .leftLastYear c
    else if judge e c.instant = .fires ∧ r < c.instant then .found c.instant
    else
      match (c.step e).2 with
      | .ok next => runAfter e r steps next
      | .error _ => .calendarEnd

/-- **No look back is needed**: all that is reached is after the reference. -/
theorem runAfter_eq_run {r : Instant} {c : Cursor} (h : Reached e r c.instant) (n : Nat) :
    runAfter e r n c = run e n c := by
  induction n generalizing c with
  | zero => rfl
  | succ n ih =>
    simp only [runAfter, Cursor.step]
    obtain ⟨hout, hrun⟩ | ⟨hout, hfires, hrun⟩ | ⟨hout, hne, ⟨x, hx, hrun⟩ | ⟨err, hx, hrun⟩⟩ :=
      run_succ_cases e n c
    · rw [hrun, if_pos hout]
    · -- what has been reached passes the test
      rw [hrun, if_neg (ne_true_of_eq_false hout), if_pos ⟨hfires, h.lt⟩]
    · rw [hrun, if_neg (ne_true_of_eq_false hout), if_neg fun hfound => hne hfound.1, hx]
      exact ih (h.resume hne hx)
    · rw [hrun, if_neg (ne_true_of_eq_false hout), if_neg fun hfound => hne hfound.1, hx]
      rfl

/-! ## What an outcome says -/

/-- **Truth of an outcome** of a search after `r` through `lastYear`: what was found is the first
minute to fire, and where nothing was found nothing fires, so far as the search was to look. -/
def Outcome.Truthful (e : Expression) (r : Instant) (lastYear : Int) : Outcome → Prop
  | .found t => FirstAfter e.Fires r t ∧ t.date.year ≤ lastYear
  | .leftLastYear c => c.lastYear = lastYear ∧
      ∀ y : Instant, y.IsWholeMinute → r < y → y.date.year ≤ lastYear → ¬ e.Fires y
  | .calendarEnd => ∀ y : Instant, y.IsWholeMinute → r < y → ¬ e.Fires y
  | .outOfSteps c => c.lastYear = lastYear ∧ Reached e r c.instant

/-- By induction on the steps that are left; the invariant carries over from step to step. -/
theorem run_truthful {r : Instant} {c : Cursor} (h : Reached e r c.instant) (n : Nat) :
    (run e n c).Truthful e r c.lastYear := by
  induction n generalizing c with
  | zero => exact ⟨rfl, h⟩
  | succ n ih =>
    obtain ⟨hout, hrun⟩ | ⟨hout, hfires, hrun⟩ | ⟨hout, hne, ⟨x, hx, hrun⟩ | ⟨err, hx, hrun⟩⟩ :=
      run_succ_cases e n c
    · rw [hrun]
      -- the years up to the last one have been passed over
      refine ⟨rfl, ?_⟩
      intro y hy hry hyear
      have hlate : c.lastYear < c.instant.date.year := of_decide_eq_true hout
      exact h.not_fires_of_year_lt (by omega) hy hry
    · rw [hrun]
      have hyear : ¬ c.lastYear < c.instant.date.year := of_decide_eq_false hout
      exact ⟨h.firstAfter (judge_eq_fires_iff.1 hfires), by omega⟩
    · rw [hrun]
      exact ih (h.resume hne hx)
    · rw [hrun]
      exact fun y hy hry => h.not_fires_of_resume_error hne hx hy hry

/-! ## Whole searches -/

/-- A search runs from the first minute after its reference. -/
theorem outcome_eq_run {r start : Instant} (hstart : FirstMinuteAfter r start) (e : Expression)
    (settings : Settings) :
    outcome e settings r =
      run e settings.maxSteps.toNat ⟨start, start.date.year + settings.horizonYears, 0⟩ := by
  obtain ⟨x, hx, hfirst⟩ := exists_firstMinuteAfter hstart.isWholeMinute hstart.lt
  have heq : x = start := hfirst.unique hstart
  subst heq
  simp only [outcome, Cursor.startAfter, hx, Except.map]

/-- A search comes out as if every finding were compared with the reference. -/
theorem outcome_eq_runAfter {r start : Instant} (hstart : FirstMinuteAfter r start)
    (e : Expression) (settings : Settings) :
    outcome e settings r =
      runAfter e r settings.maxSteps.toNat ⟨start, start.date.year + settings.horizonYears, 0⟩ := by
  rw [outcome_eq_run hstart, runAfter_eq_run (Reached.start hstart)]

theorem outcome_truthful {r start : Instant} (hstart : FirstMinuteAfter r start) (e : Expression)
    (settings : Settings) :
    (outcome e settings r).Truthful e r (start.date.year + settings.horizonYears) := by
  rw [outcome_eq_run hstart]
  exact run_truthful (Reached.start hstart) _

theorem next?_eq_some_iff {r t : Instant} {settings : Settings} :
    next? e settings r = some t ↔ outcome e settings r = .found t := by
  unfold next?
  cases outcome e settings r <;> simp [Outcome.instant?]

/-- What a search finds is the first minute to fire, within the years from its first minute on. -/
theorem firstAfter_of_found {r t : Instant} {settings : Settings}
    (h : outcome e settings r = .found t) :
    FirstAfter e.Fires r t ∧ ∃ start, FirstMinuteAfter r start ∧
      t.date.year ≤ start.date.year + settings.horizonYears := by
  cases hx : r.truncate.nextMinute with
  | ok start =>
    have hstart := firstMinuteAfter_of_nextMinute hx
    have htrue := outcome_truthful hstart e settings
    rw [h] at htrue
    exact ⟨htrue.1, start, hstart, htrue.2⟩
  | error err =>
    -- without a first minute the search meets the end of the calendar
    simp only [outcome, Cursor.startAfter, hx, Except.map] at h
    cases h

/-- A search returns nothing but first minutes to fire. -/
theorem firstAfter_of_next? {r t : Instant} {settings : Settings}
    (h : next? e settings r = some t) : FirstAfter e.Fires r t :=
  (firstAfter_of_found (next?_eq_some_iff.1 h)).1

/-- **Soundness and minimality**: whatever the bounds, an instant that a search returns is the first
whole minute after the reference at which the expression fires, read with the offset of the
reference, and it lies within the years allowed from the first minute on. -/
theorem next?_sound {r t : Instant} {settings : Settings} (h : next? e settings r = some t) :
    FirstAfter e.Fires r t ∧ ∃ start, FirstMinuteAfter r start ∧
      t.date.year ≤ start.date.year + settings.horizonYears :=
  firstAfter_of_found (next?_eq_some_iff.1 h)

/-- The expression `0 0 29 2 *`, which fires on leap days only. -/
def leapDay : Expression :=
  ⟨⟨"0", [.plain (.single 0)]⟩, ⟨"0", [.plain (.single 0)]⟩, ⟨"29", [.plain (.single 29)]⟩,
    ⟨"2", [.plain (.single 2)]⟩, ⟨"*", [.plain .wildcard]⟩⟩

theorem read_leapDay : Expression.read "0 0 29 2 *" = .ok leapDay := by rfl

/-- The year 1900 had no leap day, so the one after that of 1896 was eight years later. -/
theorem next?_sound_leap_day : ∃ r t,
    Instant.ofString? "1896-02-29T23:59:59.999999+05:30" = some r ∧
    Instant.ofString? "1904-02-29T00:00:00+05:30" = some t ∧
    next? leapDay ⟨8, 4000⟩ r = some t ∧ FirstAfter leapDay.Fires r t ∧
    ∃ start, FirstMinuteAfter r start ∧ t.date.year ≤ start.date.year + (8 : Int) := by
  refine ⟨_, _, rfl, rfl, ?found, next?_sound ?found⟩
  decide +kernel

end Cron.Search
