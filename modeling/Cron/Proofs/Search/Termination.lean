import Cron.Proofs.Search.Soundness

/-! # How many steps a search takes

While an expression accepts some time of day, a search that stands at midnight of a day takes one
step if the day is refused, and finds something within the day if it is accepted. Only on the first
day may the search come too late for that, after passing at most the minutes of one hour and the
hours of one day. So the steps of a search are bounded by the days it may visit and a constant, 168:
60 minutes and 24 hours on the first day, 84 for hours and minutes of the day of the finding.

`Ends` says that a number of steps is enough. The bounds are proved from the inside out: within an
hour, within a day, from midnight on, from any full hour on, and from any minute on. Main statement:
`ends_of_start`.
-/

namespace Cron.Search

open Calendar

variable {e : Expression}

/-- **Enough steps**: with `n` steps or more the run from the cursor does not use them up. -/
def Ends (e : Expression) (n : Nat) (c : Cursor) : Prop :=
  ∀ m, n ≤ m → ∀ c', run e m c ≠ .outOfSteps c'

theorem Ends.mono {n m : Nat} {c : Cursor} (h : Ends e n c) (hle : n ≤ m) : Ends e m c :=
  fun k hk => h k (Nat.le_trans hle hk)

/-- One step more than is enough wherever the search may resume. -/
theorem ends_of_next {n : Nat} {c : Cursor}
    (h : c.isOut = false → judge e c.instant ≠ .fires →
      ∀ x, (judge e c.instant).resume c.instant = .ok x → Ends e n (c.moveTo x)) :
    Ends e (n + 1) c := by
  intro m hm c'
  obtain ⟨k, rfl⟩ : ∃ k, m = k + 1 := ⟨m - 1, by omega⟩
  -- only a run that moves on needs more than one step
  obtain ⟨-, hrun⟩ | ⟨-, -, hrun⟩ | ⟨hout, hne, ⟨x, hx, hrun⟩ | ⟨err, -, hrun⟩⟩ :=
    run_succ_cases e k c
  · rw [hrun]
    exact Outcome.noConfusion
  · rw [hrun]
    exact Outcome.noConfusion
  · rw [hrun]
    exact h hout hne x hx k (by omega) c'
  · rw [hrun]
    exact Outcome.noConfusion

/-! ## Where a refused day leads -/

/-- From a refused month or day a search resumes at midnight of a later day. -/
theorem midnight_of_resume {v : Verdict} {x z : Instant} (hv : v = .wrongMonth ∨ v = .wrongDay)
    (h : v.resume x = .ok z) :
    x.date.ordinal < z.date.ordinal ∧ z.hour = 0 ∧ z.minute = 0 := by
  rcases hv with rfl | rfl
  · obtain ⟨hdate, hhour, hminute⟩ := Instant.nextMonth_eq_ok h
    exact ⟨Date.ordinal_lt_of_nextMonth? hdate, hhour, hminute⟩
  · obtain ⟨hdate, hhour, hminute⟩ := Instant.nextDay_eq_ok h
    have hnext := Date.ordinal_next? hdate
    exact ⟨by omega, hhour, hminute⟩

/-- The next hour is a later one of the same day, or midnight of a later day. -/
theorem fullHour_of_nextHour {x z : Instant} (h : x.nextHour = .ok z) :
    z.minute = 0 ∧ (z.date = x.date ∧ z.hour = x.hour + 1 ∨
      x.date.ordinal < z.date.ordinal ∧ z.hour = 0) := by
  rcases Instant.nextHour_eq_ok h with ⟨hdate, hhour, hminute⟩ | ⟨-, hday⟩
  · exact ⟨hminute, Or.inl ⟨hdate, hhour⟩⟩
  · obtain ⟨hlt, hhour, hminute⟩ := midnight_of_resume (Or.inr rfl) hday
    exact ⟨hminute, Or.inr ⟨hlt, hhour⟩⟩

/-- On an accepted day only the hour and the minute are left to be refused. -/
theorem judge_eq_wrongHour {x : Instant} (hmonth : e.month.accepts x.date.month)
    (hday : e.DayRule x.date) (hhour : ¬ e.hour.accepts x.hour) : judge e x = .wrongHour := by
  rw [← Expression.dayAccepts_eq_true_iff] at hday
  simp [judge, hmonth, hday, hhour]

theorem judge_eq_wrongMinute {x : Instant} (hmonth : e.month.accepts x.date.month)
    (hday : e.DayRule x.date) (hhour : e.hour.accepts x.hour)
    (hminute : ¬ e.minute.accepts x.minute) : judge e x = .wrongMinute := by
  rw [← Expression.dayAccepts_eq_true_iff] at hday
  simp [judge, hmonth, hday, hhour, hminute]

/-- A day is refused, or it is accepted as a whole. -/
theorem judge_day_cases (e : Expression) (x : Instant) :
    (judge e x = .wrongMonth ∨ judge e x = .wrongDay) ∨
      e.month.accepts x.date.month ∧ e.DayRule x.date := by
  have hverdict := Verdict.describes_judge e x
  cases hv : judge e x with
  | wrongMonth => exact Or.inl (Or.inl rfl)
  | wrongDay => exact Or.inl (Or.inr rfl)
  | wrongHour => rw [hv] at hverdict; exact Or.inr ⟨hverdict.1, hverdict.2.1⟩
  | wrongMinute => rw [hv] at hverdict; exact Or.inr ⟨hverdict.1, hverdict.2.1⟩
  | fires => rw [hv] at hverdict; exact Or.inr ⟨hverdict.1, hverdict.2.1⟩

/-! ## Bounds

Throughout, `hour` and `minute` are a time of day that the expression accepts. -/

section bounds

variable {hour minute : Nat} (hhour : e.hour.accepts hour) (hhour_lt : hour < 24)
  (hminute : e.minute.accepts minute) (hminute_lt : minute < 60)

include hminute hminute_lt in
/-- Within an accepted hour, `k` minutes before an accepted one. -/
theorem ends_in_hour (k : Nat) {c : Cursor} (hmonth : e.month.accepts c.instant.date.month)
    (hday : e.DayRule c.instant.date) (hthis : e.hour.accepts c.instant.hour)
    (hk : c.instant.minute + k = minute) : Ends e (k + 1) c := by
  induction k generalizing c with
  | zero =>
    -- the minute is accepted, so the expression fires
    have heq : c.instant.minute = minute := hk
    have hfires : e.Fires c.instant := ⟨hmonth, hday, hthis, heq ▸ hminute⟩
    apply ends_of_next
    intro _ hne
    exact absurd (judge_eq_fires_iff.2 hfires) hne
  | succ k ih =>
    apply ends_of_next
    intro _ hne x hx
    have hrefused : ¬ e.minute.accepts c.instant.minute := by
      intro h
      exact hne (judge_eq_fires_iff.2 ⟨hmonth, hday, hthis, h⟩)
    rw [judge_eq_wrongMinute hmonth hday hthis hrefused] at hx
    rcases Instant.nextMinute_eq_ok hx with ⟨hdate, hsame, hnext⟩ | ⟨hlast, -⟩
    · rw [← hdate] at hmonth hday
      rw [← hsame] at hthis
      have hk' : x.minute + k = minute := by omega
      exact ih hmonth hday hthis hk'
    · omega

include hhour hhour_lt hminute hminute_lt in
/-- At a full hour of an accepted day, `k` hours before an accepted one. -/
theorem ends_in_day (k : Nat) {c : Cursor} (hmonth : e.month.accepts c.instant.date.month)
    (hday : e.DayRule c.instant.date) (hfull : c.instant.minute = 0)
    (hk : c.instant.hour + k = hour) : Ends e (k + 60) c := by
  induction k generalizing c with
  | zero =>
    -- the hour is accepted, so it is enough to pass its minutes
    have heq : c.instant.hour = hour := hk
    have hends : Ends e (minute + 1) c :=
      ends_in_hour hminute hminute_lt minute hmonth hday (heq ▸ hhour) (by omega)
    exact hends.mono (by omega)
  | succ k ih =>
    by_cases hthis : e.hour.accepts c.instant.hour = true
    · have hends : Ends e (minute + 1) c :=
        ends_in_hour hminute hminute_lt minute hmonth hday hthis (by omega)
      exact hends.mono (by omega)
    · have hends : Ends e (k + 60 + 1) c := by
        apply ends_of_next
        intro _ _ x hx
        rw [judge_eq_wrongHour hmonth hday hthis] at hx
        rcases Instant.nextHour_eq_ok hx with ⟨hdate, hnext, hfull'⟩ | ⟨hlast, -⟩
        · rw [← hdate] at hmonth hday
          have hk' : x.hour + k = hour := by omega
          exact ih hmonth hday hfull' hk'
        · omega
      exact hends.mono (by omega)

include hhour hhour_lt hminute hminute_lt in
/-- At midnight, with `days` days left before the years up to `year` are over. The search loses one
of them with each refused day. -/
theorem ends_from_midnight (days : Nat) {c : Cursor} {year : Nat} (hyear : c.lastYear ≤ year)
    (hdays : daysBeforeYear (year + 1) < c.instant.date.ordinal + days)
    (hmidnight : c.instant.hour = 0 ∧ c.instant.minute = 0) : Ends e (days + 84) c := by
  induction days generalizing c with
  | zero =>
    -- the years are over, so the cursor is out
    have hlate : year < c.instant.date.year := by
      have hle := c.instant.date.ordinal_le_daysBeforeYear_succ
      have hmono : c.instant.date.year ≤ year →
          daysBeforeYear (c.instant.date.year + 1) ≤ daysBeforeYear (year + 1) :=
        fun h => daysBeforeYear_mono (by omega) (by omega)
      omega
    have hout : c.isOut = true := decide_eq_true (by omega)
    have hends : Ends e 1 c := by
      apply ends_of_next
      intro hin
      rw [hout] at hin
      cases hin
    exact hends.mono (by omega)
  | succ days ih =>
    rcases judge_day_cases e c.instant with hrefused | ⟨hmonth, hday⟩
    · have hends : Ends e (days + 84 + 1) c := by
        apply ends_of_next
        intro _ _ x hx
        obtain ⟨hlater, hmidnight'⟩ := midnight_of_resume hrefused hx
        have hdays' : daysBeforeYear (year + 1) < x.date.ordinal + days := by omega
        exact ih hyear hdays' hmidnight'
      exact hends.mono (by omega)
    · have hends : Ends e (hour + 60) c :=
        ends_in_day hhour hhour_lt hminute hminute_lt hour hmonth hday hmidnight.2 (by omega)
      exact hends.mono (by omega)

include hhour hhour_lt hminute hminute_lt in
/-- At any full hour, `k` hours before midnight: what is accepted may lie behind, and then the
search goes on from midnight. -/
theorem ends_from_fullHour (k : Nat) {days : Nat} {c : Cursor} {year : Nat}
    (hyear : c.lastYear ≤ year)
    (hdays : daysBeforeYear (year + 1) < c.instant.date.ordinal + days)
    (hfull : c.instant.minute = 0) (hk : c.instant.hour + k = 24) :
    Ends e (k + (days + 84)) c := by
  induction k generalizing c with
  | zero =>
    -- no hour of the clock is 24
    have := c.instant.hour_lt
    omega
  | succ k ih =>
    -- the day is left behind at midnight
    have hmidnight {x : Instant} (hlater : c.instant.date.ordinal < x.date.ordinal)
        (hx : x.hour = 0 ∧ x.minute = 0) : Ends e (k + (days + 84)) (c.moveTo x) := by
      have hdays' : daysBeforeYear (year + 1) < x.date.ordinal + days := by omega
      have hends : Ends e (days + 84) (c.moveTo x) :=
        ends_from_midnight hhour hhour_lt hminute hminute_lt days hyear hdays' hx
      exact hends.mono (by omega)
    rw [Nat.add_right_comm]
    rcases judge_day_cases e c.instant with hrefused | ⟨hmonth, hday⟩
    · apply ends_of_next
      intro _ _ x hx
      obtain ⟨hlater, hx⟩ := midnight_of_resume hrefused hx
      exact hmidnight hlater hx
    · by_cases hthis : e.hour.accepts c.instant.hour = true
      · have hends : Ends e (minute + 1) c :=
          ends_in_hour hminute hminute_lt minute hmonth hday hthis (by omega)
        exact hends.mono (by omega)
      · apply ends_of_next
        intro _ _ x hx
        rw [judge_eq_wrongHour hmonth hday hthis] at hx
        obtain ⟨hfull', ⟨hdate, hnext⟩ | ⟨hlater, hzero⟩⟩ := fullHour_of_nextHour hx
        · have hdays' : daysBeforeYear (year + 1) < x.date.ordinal + days := by
            rw [hdate]
            exact hdays
          have hk' : x.hour + k = 24 := by omega
          exact ih hyear hdays' hfull' hk'
        · exact hmidnight hlater ⟨hzero, hfull'⟩

include hhour hhour_lt hminute hminute_lt in
/-- At any minute, `k` minutes before the next full hour. -/
theorem ends_from_minute (k : Nat) {days : Nat} {c : Cursor} {year : Nat}
    (hyear : c.lastYear ≤ year)
    (hdays : daysBeforeYear (year + 1) < c.instant.date.ordinal + days)
    (hk : c.instant.minute + k = 60) : Ends e (k + (days + 108)) c := by
  induction k generalizing c with
  | zero =>
    have := c.instant.minute_lt
    omega
  | succ k ih =>
    -- whatever is refused but a minute leads to a full hour, today or later
    have hfull {x : Instant} (hlater : c.instant.date.ordinal ≤ x.date.ordinal)
        (hx : x.minute = 0) : Ends e (k + (days + 108)) (c.moveTo x) := by
      have hdays' : daysBeforeYear (year + 1) < x.date.ordinal + days := by omega
      have hhours : x.hour + (24 - x.hour) = 24 := by
        have := x.hour_lt
        omega
      have hends : Ends e (24 - x.hour + (days + 84)) (c.moveTo x) :=
        ends_from_fullHour hhour hhour_lt hminute hminute_lt _ hyear hdays' hx hhours
      exact hends.mono (by omega)
    have hnextHour {x : Instant} (hx : c.instant.nextHour = .ok x) :
        Ends e (k + (days + 108)) (c.moveTo x) := by
      obtain ⟨hx', ⟨hdate, -⟩ | ⟨hlater, -⟩⟩ := fullHour_of_nextHour hx
      · exact hfull (Nat.le_of_eq (congrArg Date.ordinal hdate.symm)) hx'
      · exact hfull (Nat.le_of_lt hlater) hx'
    rw [Nat.add_right_comm]
    apply ends_of_next
    intro _ hne x hx
    rcases judge_day_cases e c.instant with hrefused | ⟨hmonth, hday⟩
    · obtain ⟨hlater, -, hx⟩ := midnight_of_resume hrefused hx
      exact hfull (Nat.le_of_lt hlater) hx
    by_cases hthis : e.hour.accepts c.instant.hour = true
    · have hrefused : ¬ e.minute.accepts c.instant.minute := by
        intro h
        exact hne (judge_eq_fires_iff.2 ⟨hmonth, hday, hthis, h⟩)
      rw [judge_eq_wrongMinute hmonth hday hthis hrefused] at hx
      rcases Instant.nextMinute_eq_ok hx with ⟨hdate, -, hnext⟩ | ⟨-, hx⟩
      · have hdays' : daysBeforeYear (year + 1) < x.date.ordinal + days := by
          rw [hdate]
          exact hdays
        have hk' : x.minute + k = 60 := by omega
        exact ih hyear hdays' hk'
      · exact hnextHour hx
    · rw [judge_eq_wrongHour hmonth hday hthis] at hx
      exact hnextHour hx

include hhour hhour_lt hminute hminute_lt in
/-- **Enough steps for a search**: one for each day of the years that it may visit, which are
`years` years past the first, and 168 for the hours and minutes of two days. -/
theorem ends_of_start (start : Instant) (years steps : Nat) :
    Ends e (366 * (years + 1) + 168) ⟨start, start.date.year + (years : Int), steps⟩ := by
  have hlast : daysBeforeYear (start.date.year + years + 1) <
      start.date.ordinal + 366 * (years + 1) := by
    have hlt := start.date.daysBeforeYear_lt_ordinal
    have hle := daysBeforeYear_add_le start.date.one_le_year (years + 1)
    rw [← Nat.add_assoc] at hle
    omega
  have hminutes : start.minute + (60 - start.minute) = 60 := by
    have := start.minute_lt
    omega
  have hends := ends_from_minute hhour hhour_lt hminute hminute_lt (60 - start.minute)
    (c := ⟨start, start.date.year + (years : Int), steps⟩) (Int.le_refl _) hlast hminutes
  exact hends.mono (by omega)

end bounds

end Cron.Search
