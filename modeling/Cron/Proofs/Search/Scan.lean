import Cron.Proofs.Search.Termination
import Cron.Proofs.Term.WellFormed

/-! # The search and the naive scan

The naive way to find an occurrence is to look at one minute after the other. `scan` does so, from a
minute on and through the end of a year, with no bound on its steps. A search that is given enough
steps for the years it may visit answers as the scan does.

Both meet the same specification, `Answers`, which has at most one answer. Main statements:
`answers_scan`, `answers_next?` and `Answers.unique`.
-/

namespace Cron.Search

open Calendar

variable {e : Expression}

/-! ## Answers -/

/-- **Answer** to a search after `r` through `lastYear`: the first minute to fire, if it lies in
those years, or nothing if no minute fires there. -/
def Answers (e : Expression) (r : Instant) (lastYear : Int) : Option Instant → Prop
  | some t => FirstAfter e.Fires r t ∧ t.date.year ≤ lastYear
  | none => ∀ y : Instant, y.IsWholeMinute → r < y → y.date.year ≤ lastYear → ¬ e.Fires y

namespace Answers

variable {r t : Instant} {lastYear : Int} {answer answer' : Option Instant}

/-- A first minute to fire within the years is the answer. -/
theorem eq_some (h : Answers e r lastYear answer)
    (ht : FirstAfter (fun y => e.Fires y ∧ y.date.year ≤ lastYear) r t) : answer = some t := by
  cases answer with
  | none => exact absurd ht.holds.1 (h t ht.isWholeMinute ht.lt ht.holds.2)
  | some u => exact congrArg some ((h.1.and h.2).unique ht)

theorem eq_some_iff (h : Answers e r lastYear answer) :
    answer = some t ↔ FirstAfter (fun y => e.Fires y ∧ y.date.year ≤ lastYear) r t := by
  constructor
  · rintro rfl
    exact h.1.and h.2
  · exact h.eq_some

theorem eq_none_iff (h : Answers e r lastYear answer) :
    answer = none ↔
      ∀ y : Instant, y.IsWholeMinute → r < y → y.date.year ≤ lastYear → ¬ e.Fires y := by
  constructor
  · rintro rfl
    exact h
  · intro hquiet
    cases answer with
    | none => rfl
    | some t => exact absurd h.1.holds (hquiet t h.1.isWholeMinute h.1.lt h.2)

/-- There is one answer. -/
theorem unique (h : Answers e r lastYear answer) (h' : Answers e r lastYear answer') :
    answer = answer' := by
  cases answer' with
  | none => exact h.eq_none_iff.2 h'
  | some t => exact h.eq_some_iff.2 (h'.1.and h'.2)

/-- The calendar ends with its last year, so years past it may be left out. -/
theorem min_lastYear (h : Answers e r lastYear answer) :
    Answers e r (min lastYear Calendar.lastYear) answer := by
  cases answer with
  | none => exact fun y hy hry hyear => h y hy hry (by omega)
  | some t =>
    have hyear := t.date.year_le
    have hlast := h.2
    exact ⟨h.1, by omega⟩

end Answers

/-- A search answers, unless its steps are used up. -/
theorem Outcome.Truthful.answers {r : Instant} {lastYear : Int} {o : Outcome}
    (h : o.Truthful e r lastYear) (hends : ∀ c, o ≠ .outOfSteps c) :
    Answers e r lastYear o.instant? := by
  cases o with
  | found t => exact h
  | leftLastYear c => exact h.2
  | calendarEnd => exact fun y hy hry _ => h y hy hry
  | outOfSteps c => exact absurd rfl (hends c)

/-! ## The scan -/

/-- The number of the last minute of the calendar. -/
def lastMinute : Nat :=
  (daysBeforeYear (Calendar.lastYear + 1) * 24 + 23) * 60 + 59

theorem minutes_le_lastMinute (x : Instant) : x.minutes ≤ lastMinute := by
  have hday : x.date.ordinal ≤ daysBeforeYear (Calendar.lastYear + 1) := by
    have hyear := x.date.year_le
    exact Nat.le_trans x.date.ordinal_le_daysBeforeYear_succ
      (daysBeforeYear_mono (by omega) (by omega))
  have hhour := x.hour_lt
  have hminute := x.minute_lt
  unfold Instant.minutes lastMinute
  omega

/-- The naive search: look at one minute after the other, from `x` through the end of a year. -/
def scan (e : Expression) (lastYear : Int) (x : Instant) : Option Instant :=
  if lastYear < x.date.year then none
  else if e.Fires x then some x
  else
    match _h : x.nextMinute with
    | .ok y => scan e lastYear y
    | .error _ => none
termination_by lastMinute - x.minutes
decreasing_by
  have hnext := Instant.minutes_nextMinute ‹_›
  have hlast := minutes_le_lastMinute y
  omega

/-- Whether an expression fires hangs on the minute alone. -/
theorem not_fires_of_sameMinute {x y : Instant} (hx : ¬ e.Fires x)
    (h : y.date = x.date ∧ y.hour = x.hour ∧ y.minute = x.minute) : ¬ e.Fires y := by
  unfold Expression.Fires at hx ⊢
  rw [h.1, h.2.1, h.2.2]
  exact hx

/-- The next minute is reached from a minute that does not fire. -/
theorem Reached.nextMinute {r x y : Instant} (h : Reached e r x) (hx : ¬ e.Fires x)
    (hy : x.nextMinute = .ok y) : Reached e r y := by
  have hnext := Instant.minutes_nextMinute hy
  apply h.advance (Instant.sameRest_nextMinute hy) (by omega)
  -- between the two lie only instants of the minute of `x`
  intro z hxz hzy
  apply not_fires_of_sameMinute hx
  exact Instant.sameMinute_of_notReachedBy hxz (Instant.notReachedBy_of_ok hy hzy)

/-- The scan answers, by induction on the minutes that are left of the calendar. -/
theorem answers_scan {r x : Instant} (h : Reached e r x) (lastYear : Int) :
    Answers e r lastYear (scan e lastYear x) := by
  fun_induction scan e lastYear x with
  | case1 x hlate => exact fun y hy hry hyear => h.not_fires_of_year_lt (by omega) hy hry
  | case2 x hyear hfires => exact ⟨h.firstAfter hfires, by omega⟩
  | case3 x hyear hfires y hy ih => exact ih (h.nextMinute hfires hy)
  | case4 x hyear hfires err hx =>
    -- no minute follows `x`, so what lies after the reference lies before `x` or is `x`
    intro y hy hry _
    apply h.not_fires_of_rest _ hy hry
    intro z hxz
    apply not_fires_of_sameMinute hfires
    exact Instant.sameMinute_of_notReachedBy hxz (Instant.notReachedBy_of_error hx)

/-! ## The search does the same -/

/-- With enough steps for the years that it may visit a search does not use them up. -/
theorem outcome_ne_outOfSteps {r start : Instant} {settings : Settings}
    (hstart : FirstMinuteAfter r start) (hhour : ∃ hour : Nat, hour < 24 ∧ e.hour.accepts hour)
    (hminute : ∃ minute : Nat, minute < 60 ∧ e.minute.accepts minute)
    (hyears : 0 ≤ settings.horizonYears)
    (hsteps : 366 * (settings.horizonYears + 1) + 168 ≤ settings.maxSteps) :
    ∀ c, outcome e settings r ≠ .outOfSteps c := by
  obtain ⟨hour, hhour_lt, hhour⟩ := hhour
  obtain ⟨minute, hminute_lt, hminute⟩ := hminute
  obtain ⟨years, hyears⟩ := Int.eq_ofNat_of_zero_le hyears
  rw [outcome_eq_run hstart, hyears]
  exact ends_of_start hhour hhour_lt hminute hminute_lt start years 0 _ (by omega)

/-- A search with enough steps answers for all the years that it may visit. -/
theorem answers_next? {r start : Instant} {settings : Settings}
    (hstart : FirstMinuteAfter r start)
    (hends : ∀ c, outcome e settings r ≠ .outOfSteps c) :
    Answers e r (start.date.year + settings.horizonYears) (next? e settings r) :=
  (outcome_truthful hstart e settings).answers hends

/-- The last year that a search from `start` can visit. -/
def lastYearFrom (settings : Settings) (start : Instant) : Int :=
  min (start.date.year + settings.horizonYears) Calendar.lastYear

/-- **Completeness up to the horizon**: with at least 366 steps for each year that may be visited
and 168 more, a search for an expression that was read is the naive scan from its first minute on.
It returns the first minute to fire through the last year, returns nothing exactly if there is
none, and its steps are never used up. -/
theorem next?_eq_scan {text : String} (hread : Expression.read text = .ok e) {r start : Instant}
    (hstart : FirstMinuteAfter r start) {settings : Settings}
    (hyears : 0 ≤ settings.horizonYears)
    (hsteps : 366 * (settings.horizonYears + 1) + 168 ≤ settings.maxSteps) :
    next? e settings r = scan e (lastYearFrom settings start) start ∧
      (∀ t, next? e settings r = some t ↔
        FirstAfter (fun y => e.Fires y ∧ y.date.year ≤ lastYearFrom settings start) r t) ∧
      (next? e settings r = none ↔ ∀ y : Instant, y.IsWholeMinute → start ≤ y →
        y.date.year ≤ lastYearFrom settings start → ¬ e.Fires y) ∧
      ∀ c, outcome e settings r ≠ .outOfSteps c := by
  obtain ⟨hhour, hminute⟩ := Expression.exists_time_of_read hread
  have hends := outcome_ne_outOfSteps hstart hhour hminute hyears hsteps
  -- search and scan meet the same specification, so they agree
  have hanswers : Answers e r (lastYearFrom settings start) (next? e settings r) :=
    (answers_next? hstart hends).min_lastYear
  have hscan : Answers e r (lastYearFrom settings start)
      (scan e (lastYearFrom settings start) start) :=
    answers_scan (Reached.start hstart) _
  refine ⟨hanswers.unique hscan, fun t => hanswers.eq_some_iff, ?_, hends⟩
  rw [hanswers.eq_none_iff]
  constructor
  · intro hquiet y hy hle
    exact hquiet y hy ((hstart.lt_iff hy).2 hle)
  · intro hquiet y hy hlt
    exact hquiet y hy ((hstart.lt_iff hy).1 hlt)

/-- The scan of the three years from 1 March 2025 on, which are some million and a half minutes,
finds no leap day, because the search finds none. -/
theorem next?_eq_scan_leap_day : ∃ r start,
    Instant.ofString? "2025-02-28T23:59:30" = some r ∧
    Instant.ofString? "2025-03-01T00:00:00" = some start ∧
    Expression.read "0 0 29 2 *" = .ok leapDay ∧ FirstMinuteAfter r start ∧
    0 ≤ Settings.default.horizonYears ∧
    366 * (Settings.default.horizonYears + 1) + 168 ≤ Settings.default.maxSteps ∧
    lastYearFrom Settings.default start = 2027 ∧
    next? leapDay Settings.default r = scan leapDay (lastYearFrom Settings.default start) start ∧
    scan leapDay (lastYearFrom Settings.default start) start = none := by
  have hyears : 0 ≤ Settings.default.horizonYears := by decide
  have hsteps : 366 * (Settings.default.horizonYears + 1) + 168 ≤ Settings.default.maxSteps := by
    decide
  have hscan {r start : Instant} (hstart : FirstMinuteAfter r start) :
      next? leapDay Settings.default r =
        scan leapDay (lastYearFrom Settings.default start) start :=
    (next?_eq_scan read_leapDay hstart hyears hsteps).1
  refine ⟨_, _, rfl, rfl, read_leapDay, ?first, hyears, hsteps, ?year, hscan ?first,
    (hscan ?first).symm.trans ?none⟩
  case first => exact firstMinuteAfter_of_nextMinute rfl
  case year => decide +kernel
  case none => decide +kernel

end Cron.Search
