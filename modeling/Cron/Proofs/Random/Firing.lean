import Cron.Planner
import Cron.Proofs.Calendar.Recurrence
import Cron.Proofs.Random.Shapes
import Cron.Proofs.Search.Completeness

/-! # Random expressions fire within a month

The days of a random expression never fail to come for long: a weekday comes again within seven days,
and a day that every month has within 31, and within fewer unless it is today. So the time of day
that the expression accepts comes again within 31 days of any instant, years and their ends
notwithstanding, and a search with the usual bounds finds it.

Main statements: `Plan.exists_instant_after`, `Plan.Sound.exists_next?` and
`generated_fires_within_month`.
-/

namespace Cron.Random

open Calendar

/-! ## Days -/

/-- **Days recur**: the next of them is at most 31 days ahead, and less than that unless today is
one of them. -/
theorem Days.exists_after {days : Days} (h : days.Recur) (d : Date) (hyear : d.year < lastYear) :
    ∃ e : Date, days.Holds e ∧ d.ordinal < e.ordinal ∧ e.ordinal ≤ d.ordinal + 31 ∧
      (e.ordinal = d.ordinal + 31 → days.Holds d) := by
  cases days with
  | all =>
    obtain ⟨e, he⟩ := d.exists_ordinal_add hyear (k := 1) (by decide)
    exact ⟨e, trivial, by omega, by omega, fun _ => trivial⟩
  | ofMonth day => exact d.exists_day_after hyear h
  | ofWeek weekday =>
    obtain ⟨e, hweekday, hlt, hle⟩ := d.exists_weekday_after hyear (Nat.lt_succ_of_le h)
    exact ⟨e, hweekday, hlt, by omega, by omega⟩

/-! ## Instants -/

/-- A whole minute of a date. -/
def wholeMinute (date : Date) (hour minute : Nat) (hour_lt : hour < 24) (minute_lt : minute < 60) :
    Instant :=
  { Instant.ofDate date none with hour, minute, hour_lt, minute_lt }

section wholeMinute

variable {hour minute : Nat} (hour_lt : hour < 24) (minute_lt : minute < 60)

theorem isWholeMinute_wholeMinute (date : Date) :
    (wholeMinute date hour minute hour_lt minute_lt).IsWholeMinute :=
  ⟨rfl, rfl⟩

theorem minutes_wholeMinute (date : Date) :
    (wholeMinute date hour minute hour_lt minute_lt).minutes =
      (date.ordinal * 24 + hour) * 60 + minute :=
  rfl

/-- A time of day on days that recur comes again within 31 days. -/
theorem Days.exists_minute_after {days : Days} (h : days.Recur) (r : Instant)
    (hyear : r.date.year < lastYear) :
    ∃ date : Date, days.Holds date ∧
      r.minutes < (wholeMinute date hour minute hour_lt minute_lt).minutes ∧
      (wholeMinute date hour minute hour_lt minute_lt).minutes ≤ r.minutes + 31 * 1440 := by
  have hr : r.minutes = (r.date.ordinal * 24 + r.hour) * 60 + r.minute := rfl
  have hr_hour := r.hour_lt
  have hr_minute := r.minute_lt
  simp only [minutes_wholeMinute]
  by_cases htoday : days.Holds r.date ∧
      r.minutes < (r.date.ordinal * 24 + hour) * 60 + minute
  · exact ⟨r.date, htoday.1, htoday.2, by omega⟩
  · obtain ⟨date, hdate, hlt, hle, hlast⟩ := Days.exists_after h r.date hyear
    refine ⟨date, hdate, by omega, ?_⟩
    -- 31 days ahead of a day that holds, and today the time of day is past
    by_cases hfar : date.ordinal = r.date.ordinal + 31
    · have hpast : ¬ r.minutes < (r.date.ordinal * 24 + hour) * 60 + minute :=
        fun hlater => htoday ⟨hlast hfar, hlater⟩
      omega
    · omega

end wholeMinute

/-- Within 31 days at most one year ends. -/
theorem year_le_succ {x y : Instant} (h : y.minutes ≤ x.minutes + 31 * 1440) :
    y.date.year ≤ x.date.year + 1 := by
  by_contra hlate
  have hx := x.date.ordinal_le_daysBeforeYear_succ
  have hy := y.date.daysBeforeYear_lt_ordinal
  have hyear := daysBeforeYear_succ_bounds (x.date.year + 1) (by omega)
  have hmono : daysBeforeYear (x.date.year + 1 + 1) ≤ daysBeforeYear y.date.year :=
    daysBeforeYear_mono (by omega) (by omega)
  have hx_hour := x.hour_lt
  have hx_minute := x.minute_lt
  simp only [Instant.minutes] at h
  omega

/-! ## Searches -/

/-- **A plan is found**: from any instant before the last year of the calendar, a search with the
usual bounds finds a minute at most 31 days later. -/
theorem Plan.Sound.exists_next? {p : Plan} (h : p.Sound) {r : Instant}
    (hyear : r.date.year < lastYear) :
    ∃ t, Search.next? (Expression.ofTerms p.terms) Settings.default r = some t ∧ r < t ∧
      t.ticks ≤ r.ticks + 31 * 86400 * 1000000 := by
  have hour_lt : p.hour < 24 := Nat.lt_succ_of_le (Int.ofNat_le.1 h.hour.mem.2)
  have minute_lt : p.minute < 60 := Nat.lt_succ_of_le (Int.ofNat_le.1 h.minute.mem.2)
  obtain ⟨date, hdate, hlater, hsoon⟩ := Days.exists_minute_after hour_lt minute_lt h.recur r hyear
  let y := wholeMinute date p.hour p.minute hour_lt minute_lt
  have hy : y.IsWholeMinute := isWholeMinute_wholeMinute hour_lt minute_lt date
  have hlt : r < y := (Instant.lt_iff_of_isWholeMinute hy).2 hlater
  have hfires : (Expression.ofTerms p.terms).Fires y := h.fires hdate rfl rfl
  obtain ⟨start, -, hstart⟩ := exists_firstMinuteAfter hy hlt
  have hyears : y.date.year ≤ start.date.year + 1 := by
    have hstart_later := (Instant.lt_iff_of_isWholeMinute hstart.isWholeMinute).1 hstart.lt
    have hsoon' : y.minutes ≤ r.minutes + 31 * 1440 := hsoon
    exact year_le_succ (by omega)
  obtain ⟨t, ht, -⟩ : ∃ t, Search.next? (Expression.ofTerms p.terms) Settings.default r = some t ∧ _ :=
    Search.exists_found_of_fires 1 hstart hy hlt hfires hyears (by decide) (by decide)
  have hfirst : FirstAfter (Expression.ofTerms p.terms).Fires r t := Search.firstAfter_of_next? ht
  have hle : t ≤ y := hfirst.le hy hlt hfires
  refine ⟨t, ht, hfirst.lt, ?_⟩
  -- both ends of the way are compared by their minutes
  have hsoon' : y.minutes ≤ r.minutes + 31 * 1440 := hsoon
  have hr : r.minutes * 60000000 ≤ r.ticks := by
    rw [Instant.ticks]
    omega
  rw [Instant.le_def, Instant.ticks_of_isWholeMinute hy] at hle
  omega

/-- Each random expression has a plan, whether its shape was chosen or given. -/
theorem exists_plan_of_expressionOf (shape : Option Shape) :
    ∃ choice, expressionOf (shape.map Shape.name) = .ok choice ∧
      ∀ text, choice.Outcome text → ∃ p : Plan, p.Sound ∧ p.text = text := by
  cases shape with
  | some s =>
    refine ⟨s.expression, ?_, fun text h => Shape.exists_plan_of_outcome h⟩
    simp only [expressionOf, Option.map_some, Shape.ofName_name, Except.map]
  | none =>
    refine ⟨anyExpression, rfl, ?_⟩
    intro text h
    obtain ⟨s, -, h⟩ := Choice.outcome_bind_iff.1 h
    exact Shape.exists_plan_of_outcome h

/-- **Random expressions fire within a month**: of any shape or of none in particular, and whatever
the source answers, the text is a valid expression, and from any instant but in the last year of the
calendar a search with the usual bounds finds an instant at most 31 days later. -/
theorem generated_fires_within_month (shape : Option Shape) :
    ∃ choice, expressionOf (shape.map Shape.name) = .ok choice ∧
      ∀ (source : Source) (index : Nat) (text : String), (choice.run source index).1 = text →
        (validate text).1 = .ok () ∧ ∃ e, Expression.read text = .ok e ∧
          ∀ r : Instant, r.date.year ≤ 9998 → ∃ t,
            Search.next? e Settings.default r = some t ∧ r < t ∧
              t.ticks ≤ r.ticks + 31 * 86400 * 1000000 := by
  obtain ⟨choice, hchoice, hplan⟩ := exists_plan_of_expressionOf shape
  refine ⟨choice, hchoice, ?_⟩
  intro source index text htext
  obtain ⟨p, hsound, hp⟩ := hplan text (htext ▸ choice.outcome_run source index)
  have hread : Expression.read text = .ok (Expression.ofTerms p.terms) := hp ▸ hsound.read_text
  refine ⟨?_, _, hread, ?_⟩
  · rw [validate, hread]
    rfl
  · intro r hyear
    exact hsound.exists_next? (Nat.lt_succ_of_le hyear)

/-- The longest way: from the end of December to the end of January, 31 days to the minute. -/
theorem generated_fires_within_month_december : ∃ (choice : Choice String) (e : Expression)
    (r t : Instant), expressionOf (some "Monthly") = .ok choice ∧
    (choice.run (Source.scripted [23, 27]) 0).1 = "0 23 28 * *" ∧
    (validate "0 23 28 * *").1 = .ok () ∧ Expression.read "0 23 28 * *" = .ok e ∧
    Instant.ofString? "9998-12-28T23:00:00" = some r ∧ r.date.year ≤ 9998 ∧
    Search.next? e Settings.default r = some t ∧ r < t ∧
    t.ticks ≤ r.ticks + 31 * 86400 * 1000000 := by
  obtain ⟨choice, hchoice, hfires⟩ := generated_fires_within_month (some .monthly)
  obtain ⟨r, hr, hyear⟩ : ∃ r, Instant.ofString? "9998-12-28T23:00:00" = some r ∧
    r.date.year ≤ 9998 := ⟨_, rfl, by decide⟩
  have hmonthly : choice = Shape.monthly.expression := Except.ok.inj (hchoice.symm.trans rfl)
  have hrun : (choice.run (Source.scripted [23, 27]) 0).1 = "0 23 28 * *" := by
    rw [hmonthly]
    decide
  obtain ⟨hvalid, e, hread, hnext⟩ := hfires _ 0 _ hrun
  obtain ⟨t, ht, hlt, hle⟩ := hnext r hyear
  exact ⟨choice, e, r, t, hchoice, hrun, hvalid, hread, hr, hyear, ht, hlt, hle⟩

end Cron.Random
