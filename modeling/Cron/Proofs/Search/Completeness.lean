import Cron.Proofs.Calendar.Recurrence
import Cron.Proofs.Search.Scan

/-! # Nothing is out of reach

The day rule hangs on the day of the month or on the weekday, and both come again within eight
years of any date. So an expression that fires at all after a reference fires within eight years of
it, and a search through eight years, which takes fewer than 4000 steps, finds the first minute of
all that are left of the calendar. Wider bounds cannot find anything else.

Main statements: `run_found_mono`, that wider bounds keep what is found, `exists_fires_within`, and
`next?_eq_some_iff_firstAfter`.
-/

namespace Cron.Search

open Calendar

variable {e : Expression}

/-! ## Wider bounds -/

theorem isOut_eq_false_of_le {c c' : Cursor} (hin : c.isOut = false)
    (hyears : c.lastYear ≤ c'.lastYear) (hinstant : c'.instant = c.instant) :
    c'.isOut = false := by
  have hyear : ¬ c.lastYear < c.instant.date.year := of_decide_eq_false hin
  apply decide_eq_false
  rw [hinstant]
  omega

/-- **Wider bounds keep what is found**: more steps and more years change nothing about a run that
finds something. -/
theorem run_found_mono {n m : Nat} {c c' : Cursor} {t : Instant} (h : run e n c = .found t)
    (hsteps : n ≤ m) (hyears : c.lastYear ≤ c'.lastYear) (hinstant : c'.instant = c.instant) :
    run e m c' = .found t := by
  -- by induction on the steps; at each of them both runs judge the same instant
  induction n generalizing m c c' with
  | zero => cases h
  | succ n ih =>
    obtain ⟨m, rfl⟩ : ∃ k, m = k + 1 := ⟨m - 1, by omega⟩
    obtain ⟨-, hrun⟩ | ⟨hin, hfires, hrun⟩ | ⟨hin, hne, ⟨x, hx, hrun⟩ | ⟨err, -, hrun⟩⟩ :=
      run_succ_cases e n c
    · rw [hrun] at h
      cases h
    · have hin' : c'.isOut = false := isOut_eq_false_of_le hin hyears hinstant
      rw [hrun] at h
      rw [← hinstant] at hfires h
      rw [run_of_fires hin' hfires]
      exact h
    · have hin' : c'.isOut = false := isOut_eq_false_of_le hin hyears hinstant
      rw [← hinstant] at hne hx
      rw [run_of_resume hin' hne hx]
      rw [hrun] at h
      exact ih h (by omega) hyears rfl
    · rw [hrun] at h
      cases h

theorem next?_mono {r t : Instant} {settings wider : Settings} (h : next? e settings r = some t)
    (hyears : settings.horizonYears ≤ wider.horizonYears)
    (hsteps : settings.maxSteps ≤ wider.maxSteps) : next? e wider r = some t := by
  have hfound : outcome e settings r = .found t := next?_eq_some_iff.1 h
  -- both searches start from the same minute
  obtain ⟨-, start, hstart, -⟩ := firstAfter_of_found hfound
  rw [outcome_eq_run hstart] at hfound
  rw [next?_eq_some_iff, outcome_eq_run hstart]
  have hsteps' : settings.maxSteps.toNat ≤ wider.maxSteps.toNat := Int.toNat_le_toNat hsteps
  exact run_found_mono hfound hsteps' (Int.add_le_add_left hyears _) rfl

/-- **Found within some years**: where something fires at most `years` years past the first minute,
a search that may look so far, with steps for so many years, finds something within them. It may
have bounds that are wider, and steps that would not do for all of its years. -/
theorem exists_found_of_fires (years : Nat) {r start y : Instant} {settings : Settings}
    (hstart : FirstMinuteAfter r start) (hy : y.IsWholeMinute) (hlt : r < y) (hfires : e.Fires y)
    (hyear : y.date.year ≤ start.date.year + years) (hyears : years ≤ settings.horizonYears)
    (hsteps : 366 * ((years : Int) + 1) + 168 ≤ settings.maxSteps) :
    ∃ t, next? e settings r = some t ∧ t.date.year ≤ start.date.year + years := by
  -- the search through those years only, whose steps suffice
  let narrow : Settings := ⟨years, settings.maxSteps⟩
  have hhour : ∃ hour : Nat, hour < 24 ∧ e.hour.accepts hour := ⟨y.hour, y.hour_lt, hfires.2.2.1⟩
  have hminute : ∃ minute : Nat, minute < 60 ∧ e.minute.accepts minute :=
    ⟨y.minute, y.minute_lt, hfires.2.2.2⟩
  have hends : ∀ c, outcome e narrow r ≠ .outOfSteps c :=
    outcome_ne_outOfSteps hstart hhour hminute (Int.natCast_nonneg years) hsteps
  have hanswers : Answers e r (start.date.year + years) (next? e narrow r) :=
    answers_next? hstart hends
  cases hnext : next? e narrow r with
  | none =>
    -- `y` lies within the years that were searched
    have hquiet := hanswers.eq_none_iff.1 hnext y hy hlt (by omega)
    exact absurd hfires hquiet
  | some t =>
    have ht := (hanswers.eq_some_iff.1 hnext).holds
    exact ⟨t, next?_mono hnext hyears (Int.le_refl _), by omega⟩

/-! ## What fires comes again -/

/-- The day rule hangs on the day of the month alone, or on the weekday alone. -/
theorem dayRule_recurs {d : Date} (h : e.DayRule d) :
    (∀ d' : Date, d'.day = d.day → e.DayRule d') ∨
      ∀ d' : Date, d'.weekday = d.weekday → e.DayRule d' := by
  have hweekday {d' : Date} (hd : d'.weekday = d.weekday) (hfits : FitsWeekday e.weekday d) :
      FitsWeekday e.weekday d' := by
    unfold FitsWeekday
    rw [hd]
    exact hfits
  unfold Expression.DayRule at h ⊢
  by_cases hday : e.day.isWildcard
  · simp only [hday, if_true] at h ⊢
    rcases h with hall | hfits
    · exact Or.inl fun _ _ => Or.inl hall
    · exact Or.inr fun d' hd => Or.inr (hweekday hd hfits)
  by_cases hany : e.weekday.isWildcard
  · simp only [hday, hany, if_true, Bool.false_eq_true, if_false] at h ⊢
    left
    intro d' hd
    rw [hd]
    exact h
  · simp only [hday, hany, Bool.false_eq_true, if_false] at h ⊢
    rcases h with haccepts | hfits
    · left
      intro d' hd
      left
      rw [hd]
      exact haccepts
    · exact Or.inr fun d' hd => Or.inr (hweekday hd hfits)

/-- The date of a minute that fires may be changed for one with the same month that passes the day
rule. -/
theorem fires_of_date {y : Instant} (hfires : e.Fires y) {d : Date}
    (hmonth : d.month = y.date.month) (hday : e.DayRule d) : e.Fires { y with date := d } := by
  refine ⟨?_, hday, hfires.2.2⟩
  show e.month.accepts d.month
  rw [hmonth]
  exact hfires.1

/-- **Eight years**: what fires at all after a reference fires within eight years of it. -/
theorem exists_fires_within {r start y : Instant} (hstart : FirstMinuteAfter r start)
    (hy : y.IsWholeMinute) (hlt : r < y) (hfires : e.Fires y) :
    ∃ y' : Instant, y'.IsWholeMinute ∧ r < y' ∧ e.Fires y' ∧
      y'.date.year ≤ start.date.year + 8 := by
  by_cases hnear : y.date.year ≤ start.date.year + 8
  · exact ⟨y, hy, hlt, hfires, hnear⟩
  have hlast : start.date.year + 8 ≤ lastYear := by
    have := y.date.year_le
    omega
  -- a later year has a date on which the day rule holds as it does on that of `y`
  obtain ⟨d, hlater, hwithin, hmonth, hday⟩ : ∃ d : Date, start.date.year < d.year ∧
      d.year ≤ start.date.year + 8 ∧ d.month = y.date.month ∧ e.DayRule d := by
    rcases dayRule_recurs hfires.2.1 with hrecurs | hrecurs
    · obtain ⟨d, hlater, hwithin, hmonth, hday⟩ := y.date.exists_later hlast
      exact ⟨d, hlater, hwithin, hmonth, hrecurs d hday⟩
    · obtain ⟨d, hyear, hmonth, hweekday⟩ : ∃ d : Date, d.year = start.date.year + 1 ∧
          d.month = y.date.month ∧ d.weekday = y.date.weekday :=
        Date.exists_weekday ⟨by omega, by omega⟩ ⟨y.date.one_le_month, y.date.month_le⟩
          y.date.weekday_lt
      exact ⟨d, by omega, by omega, hmonth, hrecurs d hweekday⟩
  exact ⟨{ y with date := d }, hy, hstart.lt_of_year_lt hy hlater, fires_of_date hfires hmonth hday,
    hwithin⟩

/-! ## Absolute completeness -/

section complete

variable {r : Instant} {settings : Settings} (hyears : 8 ≤ settings.horizonYears)
  (hsteps : 4000 ≤ settings.maxSteps)

include hyears hsteps

/-- A search through eight years or more finds something if there is anything to be found. -/
theorem exists_found {y : Instant} (hy : y.IsWholeMinute) (hlt : r < y) (hfires : e.Fires y) :
    ∃ t, next? e settings r = some t := by
  obtain ⟨start, -, hstart⟩ := exists_firstMinuteAfter hy hlt
  obtain ⟨y', hy', hlt', hfires', hyear⟩ := exists_fires_within hstart hy hlt hfires
  obtain ⟨t, ht, -⟩ := exists_found_of_fires 8 hstart hy' hlt' hfires' hyear hyears (by omega)
  exact ⟨t, ht⟩

/-- What it finds is the first minute to fire, wherever that lies. -/
theorem next?_eq_some_iff_firstAfter {t : Instant} :
    next? e settings r = some t ↔ FirstAfter e.Fires r t := by
  constructor
  · exact firstAfter_of_next?
  · intro ht
    -- something is found, and it can only be the first minute to fire
    obtain ⟨u, hu⟩ := exists_found hyears hsteps ht.isWholeMinute ht.lt ht.holds
    have hfirst : FirstAfter e.Fires r u := firstAfter_of_next? hu
    rw [hu, hfirst.unique ht]

end complete

/-- **Absolute completeness**: with eight years and 4000 steps or more a search finds nothing
exactly if nothing fires in what is left of the calendar, and no wider bounds change its answer. -/
theorem next?_complete {r : Instant} {settings : Settings} (hyears : 8 ≤ settings.horizonYears)
    (hsteps : 4000 ≤ settings.maxSteps) :
    (next? e settings r = none ↔ ∀ y : Instant, y.IsWholeMinute → r < y → ¬ e.Fires y) ∧
      next? e settings r = next? e ⟨8, 4000⟩ r := by
  constructor
  · constructor
    · intro hnone y hy hlt hfires
      obtain ⟨t, ht⟩ := exists_found hyears hsteps hy hlt hfires
      rw [hnone] at ht
      cases ht
    · intro hquiet
      cases hnext : next? e settings r with
      | none => rfl
      | some t =>
        have ht : FirstAfter e.Fires r t := firstAfter_of_next? hnext
        exact absurd ht.holds (hquiet t ht.isWholeMinute ht.lt)
  · apply Option.ext
    intro t
    rw [next?_eq_some_iff_firstAfter hyears hsteps]
    exact (next?_eq_some_iff_firstAfter (Int.le_refl 8) (Int.le_refl 4000)).symm

/-- The last leap day of the calendar is 29 February 9996. -/
theorem next?_complete_last_leap_day : ∃ r,
    Instant.ofString? "9996-02-29T00:00:00-08:00" = some r ∧
    next? leapDay ⟨100, 1000000⟩ r = next? leapDay ⟨8, 4000⟩ r ∧
    ∀ y : Instant, y.IsWholeMinute → r < y → ¬ leapDay.Fires y := by
  have hyears : 8 ≤ (Settings.mk 100 1000000).horizonYears := by decide
  have hsteps : 4000 ≤ (Settings.mk 100 1000000).maxSteps := by decide
  have hcomplete (r : Instant) := next?_complete (e := leapDay) (r := r) hyears hsteps
  refine ⟨_, rfl, (hcomplete _).2, (hcomplete _).1.1 ?_⟩
  rw [(hcomplete _).2]
  decide +kernel

end Cron.Search
