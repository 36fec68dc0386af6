import Cron.Planner
import Cron.Proofs.Search.Scan
import Cron.Proofs.Search.Walk
import Cron.Proofs.Text.Numeral

/-! # What the log says of a search in vain

A search that finds something writes nothing to the log, and one that finds nothing writes one
record, which gives the reason. There are three: the calendar has ended, the last year that may be
visited is over, or the steps are used up. Each is given where the search stops, and what it says
follows from the invariant of the run there. The three are worded differently, so the reason can be
read off the log.

Main statements: `run_reason` for runs, `quiet_of_calendarEnd` and its companions for searches,
`snd_next_eq_calendarRecord_iff` and its companions for what is read off the log, and
`next_records_truthful`.
-/

namespace Cron.Search

open Calendar

variable {e : Expression} {settings : Settings} {r : Instant}

/-! ## Where a run stops -/

/-- The calendar ends in its last year. -/
theorem Verdict.year_of_resume_error {v : Verdict} {x : Instant} {err : CalendarError}
    (h : v.resume x = .error err) : x.date.year = lastYear := by
  have hday (h : x.nextDay = .error err) : x.date.year = lastYear :=
    (Date.next?_eq_none (Instant.nextDay_eq_error h)).1
  cases v with
  | wrongMonth => exact (Date.nextMonth?_eq_none (Instant.nextMonth_eq_error h)).1
  | wrongDay => exact hday h
  | wrongHour => exact hday (Instant.nextHour_eq_error h)
  | wrongMinute => exact hday (Instant.nextMinute_eq_error h)
  | fires => exact hday (Instant.nextMinute_eq_error h)

/-- **Reason of an outcome** of a run from the walk `w` with `n` steps: a year follows the last one
that may be visited, or none does, or the cursor has made all of the steps. -/
def Outcome.Reason (e : Expression) (n : Nat) (w : Walk) : Outcome → Prop
  | .found _ => True
  | .leftLastYear _ => w.cursor.lastYear < lastYear
  | .calendarEnd => (lastYear : Int) ≤ w.cursor.lastYear
  | .outOfSteps c => ∃ w', Walk.Steps e n w w' ∧ w'.cursor = c

/-- What a walk has reason for after its next step it has reason for now. -/
theorem Outcome.Reason.of_step {n : Nat} {w w' : Walk} {o : Outcome}
    (hstep : w.step e = (.ok (), w')) (h : o.Reason e n w') : o.Reason e (n + 1) w := by
  have hyear : w'.cursor.lastYear = w.cursor.lastYear := by
    obtain ⟨y, -, rfl⟩ := Walk.step_eq_ok hstep
    rfl
  cases o with
  | found t => trivial
  | leftLastYear c =>
    show w.cursor.lastYear < lastYear
    rw [← hyear]
    exact h
  | calendarEnd =>
    show (lastYear : Int) ≤ w.cursor.lastYear
    rw [← hyear]
    exact h
  | outOfSteps c =>
    obtain ⟨w'', hsteps, hcursor⟩ := h
    exact ⟨w'', .cons hstep hsteps, hcursor⟩

/-- By induction on the steps, each of which is a step of the walk. -/
theorem run_reason (n : Nat) (w : Walk) : (run e n w.cursor).Reason e n w := by
  induction n generalizing w with
  | zero => exact ⟨w, .zero w, rfl⟩
  | succ n ih =>
    obtain ⟨hout, hrun⟩ | ⟨-, -, hrun⟩ | ⟨hin, -, ⟨x, hx, hrun⟩ | ⟨err, hx, hrun⟩⟩ :=
      run_succ_cases e n w.cursor
    · rw [hrun]
      have hyear : w.cursor.lastYear < w.cursor.instant.date.year := of_decide_eq_true hout
      have hle := w.cursor.instant.date.year_le
      show w.cursor.lastYear < lastYear
      omega
    · rw [hrun]
      trivial
    · rw [hrun]
      exact (ih (w.visit (judge e w.cursor.instant) (w.cursor.moveTo x))).of_step
        (Walk.step_of_resume hx)
    · rw [hrun]
      have hyear : ¬ w.cursor.lastYear < w.cursor.instant.date.year := of_decide_eq_false hin
      rw [Verdict.year_of_resume_error hx] at hyear
      show (lastYear : Int) ≤ w.cursor.lastYear
      omega

/-! ## What a search in vain has looked at -/

/-- Without a first minute the search meets the end of the calendar at once. -/
theorem outcome_of_startAfter_error {err : CalendarError}
    (h : Cursor.startAfter r settings.horizonYears = .error err) :
    outcome e settings r = .calendarEnd := by
  simp only [outcome, h]

theorem outcome_of_startAfter {c : Cursor}
    (h : Cursor.startAfter r settings.horizonYears = .ok c) :
    outcome e settings r = run e settings.maxSteps.toNat c := by
  simp only [outcome, h]

/-- All other outcomes have a cursor to start from. -/
theorem exists_startAfter (h : outcome e settings r ≠ .calendarEnd) :
    ∃ c, Cursor.startAfter r settings.horizonYears = .ok c := by
  cases hc : Cursor.startAfter r settings.horizonYears with
  | ok c => exact ⟨c, rfl⟩
  | error err => exact absurd (outcome_of_startAfter_error hc) h

/-- Where the calendar has ended nothing fires at all. -/
theorem quiet_of_calendarEnd (h : outcome e settings r = .calendarEnd) {y : Instant}
    (hy : y.IsWholeMinute) (hlt : r < y) : ¬ e.Fires y := by
  obtain ⟨start, -, hstart⟩ := exists_firstMinuteAfter hy hlt
  have htrue := outcome_truthful hstart e settings
  rw [h] at htrue
  exact htrue y hy hlt

/-- Where the last year is over nothing fires up to its end. -/
theorem quiet_of_leftLastYear {c : Cursor} (h : outcome e settings r = .leftLastYear c) :
    ∃ start, FirstMinuteAfter r start ∧ c.lastYear = start.date.year + settings.horizonYears ∧
      ∀ y : Instant, y.IsWholeMinute → r < y → y.date.year ≤ c.lastYear → ¬ e.Fires y := by
  obtain ⟨first, hfirst⟩ := exists_startAfter (e := e) (by rw [h]; exact Outcome.noConfusion)
  obtain ⟨hstart, -, -⟩ := startAfter_eq_ok hfirst
  have htrue := outcome_truthful hstart e settings
  rw [h] at htrue
  refine ⟨first.instant, hstart, htrue.1, ?_⟩
  rw [htrue.1]
  exact htrue.2

/-- Where the steps are used up the cursor has made all of them, and passed over nothing that
fires. -/
theorem quiet_of_outOfSteps {c : Cursor} (h : outcome e settings r = .outOfSteps c) :
    ∃ first w, Cursor.startAfter r settings.horizonYears = .ok first ∧
      Walk.Steps e settings.maxSteps.toNat (Walk.start first) w ∧ w.cursor = c ∧
      ∀ y : Instant, y.IsWholeMinute → r < y → y < c.instant → ¬ e.Fires y := by
  obtain ⟨first, hfirst⟩ := exists_startAfter (e := e) (by rw [h]; exact Outcome.noConfusion)
  obtain ⟨hstart, -, -⟩ := startAfter_eq_ok hfirst
  have hreason := run_reason (e := e) settings.maxSteps.toNat (Walk.start first)
  have htrue := outcome_truthful hstart e settings
  rw [h] at htrue
  rw [outcome_of_startAfter hfirst] at h
  rw [Walk.start, h] at hreason
  obtain ⟨w, hsteps, hcursor⟩ := hreason
  exact ⟨first, w, hfirst, hsteps, hcursor, htrue.2.not_between⟩

/-! ### The last year -/

section lastYear

variable {start : Instant} (hstart : FirstMinuteAfter r start)

include hstart

theorem outcome_reason (e : Expression) (settings : Settings) :
    (outcome e settings r).Reason e settings.maxSteps.toNat
      (Walk.start ⟨start, start.date.year + settings.horizonYears, 0⟩) := by
  rw [outcome_eq_run hstart]
  exact run_reason _ (Walk.start _)

/-- A search is cut off after its last year only if the calendar goes on. -/
theorem lt_of_leftLastYear {c : Cursor} (h : outcome e settings r = .leftLastYear c) :
    start.date.year + settings.horizonYears < lastYear := by
  have hreason := outcome_reason hstart e settings
  rw [h] at hreason
  exact hreason

/-- A search meets the end of the calendar only if it may visit the last year. -/
theorem le_of_calendarEnd (h : outcome e settings r = .calendarEnd) :
    (lastYear : Int) ≤ start.date.year + settings.horizonYears := by
  have hreason := outcome_reason hstart e settings
  rw [h] at hreason
  exact hreason

end lastYear

/-! ## Records -/

/-- The record of a search that met the end of the calendar. -/
def calendarRecord (e : Expression) : Log.Record :=
  ⟨"OccurrenceSearch", "Search for " ++ e.text ++ " ran past the supported calendar range"⟩

/-- The record of a search through all years that it might visit. -/
def horizonRecord (e : Expression) (year : Int) : Log.Record :=
  ⟨"OccurrenceSearch", "No occurrence of " ++ e.text ++ " before the end of " ++ year.repr⟩

/-- The record of a search that used up its steps. -/
def stepsRecord (e : Expression) (steps : Int) : Log.Record :=
  ⟨"OccurrenceSearch", "No occurrence of " ++ e.text ++ " within " ++ steps.repr ++ " iterations"⟩

theorem calendarRecord_ne_horizonRecord {year : Int} : calendarRecord e ≠ horizonRecord e year := by
  intro h
  have hhead := congrArg (fun record => record.message.toList.head?) h
  simp [calendarRecord, horizonRecord] at hhead

theorem calendarRecord_ne_stepsRecord {steps : Int} : calendarRecord e ≠ stepsRecord e steps := by
  intro h
  have hhead := congrArg (fun record => record.message.toList.head?) h
  simp [calendarRecord, stepsRecord] at hhead

theorem horizonRecord_ne_stepsRecord {year steps : Int} :
    horizonRecord e year ≠ stepsRecord e steps := by
  intro h
  have hmessage := congrArg Log.Record.message h
  simp only [horizonRecord, stepsRecord, String.append_assoc, String.append_right_inj] at hmessage
  -- after the text of the expression the next words differ
  have hsecond := congrArg (fun text => text.toList[1]?) hmessage
  simp at hsecond

theorem horizonRecord_inj {year year' : Int} :
    horizonRecord e year = horizonRecord e year' ↔ year = year' := by
  constructor
  · intro h
    have hmessage := congrArg Log.Record.message h
    simp only [horizonRecord, String.append_right_inj] at hmessage
    exact Text.Numeral.repr_injective hmessage
  · rintro rfl
    rfl

theorem stepsRecord_inj {steps steps' : Int} :
    stepsRecord e steps = stepsRecord e steps' ↔ steps = steps' := by
  constructor
  · intro h
    have hmessage := congrArg Log.Record.message h
    simp only [stepsRecord, String.append_left_inj, String.append_right_inj] at hmessage
    exact Text.Numeral.repr_injective hmessage
  · rintro rfl
    rfl

/-- What a search writes to the log. -/
theorem snd_next (e : Expression) (settings : Settings) (r : Instant) :
    (next e settings r).2 = match outcome e settings r with
      | .found _ => []
      | .leftLastYear c => [horizonRecord e c.lastYear]
      | .calendarEnd => [calendarRecord e]
      | .outOfSteps _ => [stepsRecord e settings.maxSteps] := by
  cases h : outcome e settings r <;> simp only [next, h] <;> rfl

/-! ### Reading the reason off the log -/

theorem snd_next_eq_calendarRecord_iff :
    (next e settings r).2 = [calendarRecord e] ↔ outcome e settings r = .calendarEnd := by
  rw [snd_next]
  cases outcome e settings r with
  | found t => simp
  | leftLastYear c => simp [Ne.symm calendarRecord_ne_horizonRecord]
  | calendarEnd => simp
  | outOfSteps c => simp [Ne.symm calendarRecord_ne_stepsRecord]

theorem snd_next_eq_horizonRecord_iff {year : Int} :
    (next e settings r).2 = [horizonRecord e year] ↔
      ∃ c, outcome e settings r = .leftLastYear c ∧ c.lastYear = year := by
  rw [snd_next]
  cases outcome e settings r with
  | found t => simp
  | leftLastYear c => simp [horizonRecord_inj]
  | calendarEnd => simp [calendarRecord_ne_horizonRecord]
  | outOfSteps c => simp [Ne.symm horizonRecord_ne_stepsRecord]

theorem snd_next_eq_stepsRecord_iff {steps : Int} :
    (next e settings r).2 = [stepsRecord e steps] ↔
      settings.maxSteps = steps ∧ ∃ c, outcome e settings r = .outOfSteps c := by
  rw [snd_next]
  cases outcome e settings r with
  | found t => simp
  | leftLastYear c => simp [horizonRecord_ne_stepsRecord]
  | calendarEnd => simp [calendarRecord_ne_stepsRecord]
  | outOfSteps c => simp [stepsRecord_inj]

/-- With enough steps for its years a search in vain ends with the horizon or with the calendar,
whichever comes first. -/
theorem records_of_enough_steps {text : String} (hread : Expression.read text = .ok e)
    {start : Instant} (hstart : FirstMinuteAfter r start) (hyears : 0 ≤ settings.horizonYears)
    (hsteps : 366 * (settings.horizonYears + 1) + 168 ≤ settings.maxSteps)
    (hnone : (next e settings r).1 = none) :
    start.date.year + settings.horizonYears < lastYear ∧
        (next e settings r).2 = [horizonRecord e (start.date.year + settings.horizonYears)] ∨
      (lastYear : Int) ≤ start.date.year + settings.horizonYears ∧
        (next e settings r).2 = [calendarRecord e] := by
  obtain ⟨hhour, hminute⟩ := Expression.exists_time_of_read hread
  have htrue := outcome_truthful hstart e settings
  cases h : outcome e settings r with
  | found t =>
    rw [next, h] at hnone
    cases hnone
  | leftLastYear c =>
    rw [h] at htrue
    exact Or.inl ⟨lt_of_leftLastYear hstart h, snd_next_eq_horizonRecord_iff.2 ⟨c, h, htrue.1⟩⟩
  | calendarEnd =>
    exact Or.inr ⟨le_of_calendarEnd hstart h, snd_next_eq_calendarRecord_iff.2 h⟩
  | outOfSteps c =>
    exact absurd h (outcome_ne_outOfSteps hstart hhour hminute hyears hsteps c)

/-! ## The log tells the truth -/

/-- **Truth of the log**: a search for an expression that was read writes nothing if it finds
something, and one record of three kinds if it does not. Where the record names the calendar,
nothing fires after the reference. Where it names a year, that is the year of the first minute and
the horizon beyond it, and nothing fires up to its end. Where it names the steps, the cursor has
made exactly so many, none if their number is negative, and nothing fires before the cursor. With
366 steps for each year and 168 more the record names the year if a later one follows it in the
calendar, and the calendar if none does. -/
theorem next_records_truthful {text : String} (hread : Expression.read text = .ok e)
    {answer : Option Instant} {records : List Log.Record}
    (hnext : next e settings r = (answer, records)) :
    (∀ t, answer = some t → records = []) ∧
    (answer = none → ∃ record, records = [record] ∧
      record.logger = "OccurrenceSearch" ∧ record.levelName = "DEBUG" ∧
      (record = calendarRecord e ∨ (∃ year, record = horizonRecord e year) ∨
        record = stepsRecord e settings.maxSteps)) ∧
    (records = [calendarRecord e] → ∀ y : Instant, y.IsWholeMinute → r < y → ¬ e.Fires y) ∧
    (∀ year, records = [horizonRecord e year] → ∃ start, FirstMinuteAfter r start ∧
      year = start.date.year + settings.horizonYears ∧
      ∀ y : Instant, y.IsWholeMinute → r < y → y.date.year ≤ year → ¬ e.Fires y) ∧
    (∀ steps, records = [stepsRecord e steps] → steps = settings.maxSteps ∧
      ∃ (first : Cursor) (n : Nat) (w : Walk),
        Cursor.startAfter r settings.horizonYears = .ok first ∧
        Walk.Steps e n (Walk.start first) w ∧ (n : Int) = max settings.maxSteps 0 ∧
        outcome e settings r = .outOfSteps w.cursor ∧
        ∀ y : Instant, y.IsWholeMinute → r < y → y < w.cursor.instant → ¬ e.Fires y) ∧
    (∀ start, FirstMinuteAfter r start → 0 ≤ settings.horizonYears →
      366 * (settings.horizonYears + 1) + 168 ≤ settings.maxSteps → answer = none →
      (records = [horizonRecord e (start.date.year + settings.horizonYears)] ↔
        start.date.year + settings.horizonYears < lastYear) ∧
      (records = [calendarRecord e] ↔
        (lastYear : Int) ≤ start.date.year + settings.horizonYears)) := by
  have hanswer : (next e settings r).1 = answer := congrArg Prod.fst hnext
  have hrecords : (next e settings r).2 = records := congrArg Prod.snd hnext
  subst hanswer hrecords
  refine ⟨?found, ?one, ?calendar, ?horizon, ?steps, ?enough⟩
  case found =>
    intro t ht
    rw [snd_next, next?_eq_some_iff.1 ht]
  case one =>
    intro hnone
    rw [snd_next]
    cases h : outcome e settings r with
    | found t =>
      rw [next, h] at hnone
      cases hnone
    | leftLastYear c => exact ⟨_, rfl, rfl, rfl, Or.inr (Or.inl ⟨_, rfl⟩)⟩
    | calendarEnd => exact ⟨_, rfl, rfl, rfl, Or.inl rfl⟩
    | outOfSteps c => exact ⟨_, rfl, rfl, rfl, Or.inr (Or.inr rfl)⟩
  case calendar =>
    intro h y hy hlt
    exact quiet_of_calendarEnd (snd_next_eq_calendarRecord_iff.1 h) hy hlt
  case horizon =>
    intro year h
    obtain ⟨c, hc, rfl⟩ := snd_next_eq_horizonRecord_iff.1 h
    exact quiet_of_leftLastYear hc
  case steps =>
    intro steps h
    obtain ⟨hsteps, c, hc⟩ := snd_next_eq_stepsRecord_iff.1 h
    obtain ⟨first, w, hfirst, hwalk, rfl, hquiet⟩ := quiet_of_outOfSteps hc
    exact ⟨hsteps.symm, first, _, w, hfirst, hwalk, Int.toNat_eq_max _, hc, hquiet⟩
  case enough =>
    intro start hstart hyears hsteps hnone
    -- each of the two records excludes the other, and so do the two cases for the last year
    rcases records_of_enough_steps hread hstart hyears hsteps hnone with ⟨hlt, h⟩ | ⟨hle, h⟩
    · rw [h]
      exact ⟨iff_of_true rfl hlt, iff_of_false (by simp [Ne.symm calendarRecord_ne_horizonRecord])
        (by omega)⟩
    · rw [h]
      exact ⟨iff_of_false (by simp [calendarRecord_ne_horizonRecord]) (by omega),
        iff_of_true rfl hle⟩

/-- After 9996 there is no leap day. Which of the three records says so hangs on the settings: the
years end before the calendar or with it, or the steps do not do for the days of February. -/
theorem next_records_truthful_last_years : ∃ r start,
    Instant.ofString? "9997-01-31T23:59:30+05:30" = some r ∧
    Instant.ofString? "9997-02-01T00:00:00+05:30" = some start ∧
    Expression.read "0 0 29 2 *" = .ok leapDay ∧ FirstMinuteAfter r start ∧
    next leapDay ⟨1, 900⟩ r = (none, [horizonRecord leapDay 9998]) ∧
    (∀ y : Instant, y.IsWholeMinute → r < y → y.date.year ≤ (9998 : Int) → ¬ leapDay.Fires y) ∧
    next leapDay ⟨2, 1266⟩ r = (none, [calendarRecord leapDay]) ∧
    (∀ y : Instant, y.IsWholeMinute → r < y → ¬ leapDay.Fires y) ∧
    (lastYear : Int) ≤ start.date.year + (2 : Int) ∧
    next leapDay ⟨2, 14⟩ r = (none, [stepsRecord leapDay 14]) ∧
    ∃ (first : Cursor) (n : Nat) (w : Walk), Cursor.startAfter r 2 = .ok first ∧
      Walk.Steps leapDay n (Walk.start first) w ∧ (n : Int) = max 14 0 ∧
      outcome leapDay ⟨2, 14⟩ r = .outOfSteps w.cursor ∧
      ∀ y : Instant, y.IsWholeMinute → r < y → y < w.cursor.instant → ¬ leapDay.Fires y := by
  obtain ⟨r, hr⟩ : ∃ r, Instant.ofString? "9997-01-31T23:59:30+05:30" = some r := ⟨_, rfl⟩
  obtain ⟨start, hstart⟩ : ∃ start, Instant.ofString? "9997-02-01T00:00:00+05:30" = some start :=
    ⟨_, rfl⟩
  have hfirst : FirstMinuteAfter r start := by
    cases hr
    cases hstart
    exact firstMinuteAfter_of_nextMinute rfl
  have hhorizon : next leapDay ⟨1, 900⟩ r = (none, [horizonRecord leapDay 9998]) := by
    cases hr
    decide +kernel
  have hcalendar : next leapDay ⟨2, 1266⟩ r = (none, [calendarRecord leapDay]) := by
    cases hr
    decide +kernel
  have hsteps : next leapDay ⟨2, 14⟩ r = (none, [stepsRecord leapDay 14]) := by
    cases hr
    decide +kernel
  obtain ⟨-, -, -, hquiet, -, -⟩ := next_records_truthful read_leapDay hhorizon
  obtain ⟨-, -, hnever, -, -, hlast⟩ := next_records_truthful read_leapDay hcalendar
  obtain ⟨-, -, -, -, hmade, -⟩ := next_records_truthful read_leapDay hsteps
  obtain ⟨-, -, -, hquiet⟩ := hquiet 9998 rfl
  exact ⟨r, start, hr, hstart, read_leapDay, hfirst, hhorizon, hquiet, hcalendar, hnever rfl,
    (hlast start hfirst (by decide) (by decide) rfl).2.1 rfl, hsteps, (hmade 14 rfl).2⟩

end Cron.Search
