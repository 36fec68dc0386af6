import Cron.Proofs.Calendar.Order

/-! # The cycle of the calendar

The calendar repeats every 400 years. The same years are leap years, so the months are as long as
one cycle before; and a cycle is a whole number of weeks, so all dates keep their weekdays. The moves
between units read nothing else of a year, and lead from readings one cycle later to readings one
cycle later, as long as the calendar has them.

Main statements: `Date.weekday_cycleLater`, and `Instant.CommutesWithCycle` for each of the moves.
-/

namespace Cron.Calendar

/-! ## Years and months -/

/-- The years of a cycle. -/
def cycleYears : Nat := 400

/-- The days of a cycle: 20871 weeks. -/
def cycleDays : Nat := 146097

theorem isLeap_add_cycleYears (year : Nat) : isLeap (year + cycleYears) = isLeap year := by
  have h₄ : (year + 400) % 4 = year % 4 := by omega
  have h₁₀₀ : (year + 400) % 100 = year % 100 := by omega
  have h₄₀₀ : (year + 400) % 400 = year % 400 := by omega
  simp only [isLeap, cycleYears, h₄, h₁₀₀, h₄₀₀]

theorem daysInMonth_add_cycleYears (year month : Nat) :
    daysInMonth (year + cycleYears) month = daysInMonth year month := by
  simp only [daysInMonth, isLeap_add_cycleYears]

theorem daysBeforeMonth_add_cycleYears (year month : Nat) :
    daysBeforeMonth (year + cycleYears) month = daysBeforeMonth year month := by
  simp only [daysBeforeMonth, isLeap_add_cycleYears]

/-- A cycle has 97 leap days. -/
theorem daysBeforeYear_add_cycleYears {year : Nat} (h : 1 ≤ year) :
    daysBeforeYear (year + cycleYears) = daysBeforeYear year + cycleDays := by
  obtain ⟨past, rfl⟩ : ∃ past, year = past + 1 := ⟨year - 1, by omega⟩
  have hpast : past + 1 + 400 - 1 = past + 400 := by omega
  have hle : past / 100 ≤ past / 4 := Nat.div_le_div_left (by decide) (by decide)
  simp only [daysBeforeYear, cycleYears, cycleDays, hpast, Nat.add_sub_cancel]
  omega

/-! ## Dates -/

namespace Date

/-- The date with the same month and day one cycle later. -/
def cycleLater (d : Date) (h : d.year + cycleYears ≤ lastYear) : Date :=
  ⟨d.year + cycleYears, d.month, d.day, Nat.le_add_right_of_le d.one_le_year, h, d.one_le_month,
    d.month_le, d.one_le_day, by rw [daysInMonth_add_cycleYears]; exact d.day_le⟩

/-- The same, where the calendar has that date. -/
def cycleLater? (d : Date) : Option Date :=
  if h : d.year + cycleYears ≤ lastYear then some (d.cycleLater h) else none

variable {d : Date}

theorem ordinal_cycleLater (h : d.year + cycleYears ≤ lastYear) :
    (d.cycleLater h).ordinal = d.ordinal + cycleDays := by
  simp only [ordinal, cycleLater, daysBeforeYear_add_cycleYears d.one_le_year,
    daysBeforeMonth_add_cycleYears]
  omega

/-- **Weekdays repeat**: a cycle is a whole number of weeks. -/
theorem weekday_cycleLater (h : d.year + cycleYears ≤ lastYear) :
    (d.cycleLater h).weekday = d.weekday := by
  have hweeks : cycleDays = 7 * 20871 := rfl
  rw [weekday, weekday, ordinal_cycleLater, hweeks, Nat.add_mul_mod_self_left]

/-- The parts of a date one cycle later are those of a date just if the calendar has it. -/
theorem bind_cycleLater?_ofParts? {year month day : Nat} (h : 1 ≤ year) :
    (ofParts? year month day).bind cycleLater? = ofParts? (year + cycleYears) month day := by
  by_cases hyear : year + cycleYears ≤ lastYear
  · by_cases hparts : (1 ≤ month ∧ month ≤ 12) ∧ 1 ≤ day ∧ day ≤ daysInMonth year month
    · have hparts' : (1 ≤ month ∧ month ≤ 12) ∧ 1 ≤ day ∧
          day ≤ daysInMonth (year + cycleYears) month := by
        rw [daysInMonth_add_cycleYears]
        exact hparts
      rw [ofParts?, ofParts?, dif_pos ⟨⟨h, by omega⟩, hparts⟩, dif_pos ⟨⟨by omega, hyear⟩, hparts'⟩,
        Option.bind_some]
      exact dif_pos hyear
    · have hparts' : ¬ ((1 ≤ month ∧ month ≤ 12) ∧ 1 ≤ day ∧
          day ≤ daysInMonth (year + cycleYears) month) := by
        rw [daysInMonth_add_cycleYears]
        exact hparts
      rw [ofParts?, ofParts?, dif_neg fun hall => hparts hall.2, dif_neg fun hall => hparts' hall.2]
      rfl
  · have hlater : ofParts? (year + cycleYears) month day = none := dif_neg fun hall => hyear hall.1.2
    rw [hlater]
    unfold ofParts?
    split
    · exact dif_neg hyear
    · rfl

theorem nextMonth?_eq_ofParts? (d : Date) : d.nextMonth? =
    if d.month < 12 then ofParts? d.year (d.month + 1) 1 else ofParts? (d.year + 1) 1 1 := by
  have hday (year month : Nat) : 1 ≤ daysInMonth year month := daysInMonth_pos year month
  unfold nextMonth? ofParts?
  by_cases hm : d.month < 12
  · rw [dif_pos hm, if_pos hm,
      dif_pos ⟨⟨d.one_le_year, d.year_le⟩, ⟨by omega, by omega⟩, Nat.le_refl 1, hday _ _⟩]
  · rw [dif_neg hm, if_neg hm]
    by_cases hy : d.year < lastYear
    · rw [dif_pos hy, dif_pos ⟨⟨by omega, by omega⟩, ⟨by omega, by omega⟩, Nat.le_refl 1, hday _ _⟩]
    · rw [dif_neg hy, dif_neg fun hall => hy hall.1.2]

theorem next?_eq_ofParts? (d : Date) : d.next? =
    if d.day < daysInMonth d.year d.month then ofParts? d.year d.month (d.day + 1)
    else d.nextMonth? := by
  unfold next? ofParts?
  by_cases hd : d.day < daysInMonth d.year d.month
  · rw [dif_pos hd, if_pos hd,
      dif_pos ⟨⟨d.one_le_year, d.year_le⟩, ⟨d.one_le_month, d.month_le⟩, by omega, by omega⟩]
  · rw [dif_neg hd, if_neg hd]

/-- The month after the later date begins one cycle after that after the earlier one. -/
theorem nextMonth?_cycleLater (h : d.year + cycleYears ≤ lastYear) :
    (d.cycleLater h).nextMonth? = d.nextMonth?.bind cycleLater? := by
  rw [nextMonth?_eq_ofParts?, nextMonth?_eq_ofParts? d]
  by_cases hm : d.month < 12
  · have hm' : (d.cycleLater h).month < 12 := hm
    rw [if_pos hm, if_pos hm', bind_cycleLater?_ofParts? d.one_le_year]
    rfl
  · have hm' : ¬ (d.cycleLater h).month < 12 := hm
    have hyear : d.year + 1 + cycleYears = (d.cycleLater h).year + 1 :=
      Nat.add_right_comm d.year 1 cycleYears
    rw [if_neg hm, if_neg hm', bind_cycleLater?_ofParts? (Nat.le_add_left 1 d.year), hyear]

/-- The day after the later date is one cycle after that after the earlier one. -/
theorem next?_cycleLater (h : d.year + cycleYears ≤ lastYear) :
    (d.cycleLater h).next? = d.next?.bind cycleLater? := by
  have hlength : daysInMonth (d.cycleLater h).year (d.cycleLater h).month =
      daysInMonth d.year d.month := daysInMonth_add_cycleYears d.year d.month
  rw [next?_eq_ofParts?, next?_eq_ofParts? d, hlength, nextMonth?_cycleLater]
  by_cases hd : d.day < daysInMonth d.year d.month
  · have hd' : (d.cycleLater h).day < daysInMonth d.year d.month := hd
    rw [if_pos hd, if_pos hd', bind_cycleLater?_ofParts? d.one_le_year]
    rfl
  · have hd' : ¬ (d.cycleLater h).day < daysInMonth d.year d.month := hd
    rw [if_neg hd, if_neg hd']

end Date

/-! ## Instants -/

namespace Instant

/-- The same reading one cycle later. -/
def cycleLater (x : Instant) (h : x.date.year + cycleYears ≤ lastYear) : Instant :=
  { x with date := x.date.cycleLater h }

/-- The same, where the calendar has that reading. -/
def cycleLater? (x : Instant) : Option Instant :=
  if h : x.date.year + cycleYears ≤ lastYear then some (x.cycleLater h) else none

variable {x : Instant}

theorem cycleLater?_eq_some (h : x.date.year + cycleYears ≤ lastYear) :
    x.cycleLater? = some (x.cycleLater h) :=
  dif_pos h

theorem cycleLater?_eq_none (h : lastYear < x.date.year + cycleYears) : x.cycleLater? = none :=
  dif_neg (Nat.not_le.2 h)

theorem cycleLater?_eq_some_iff {y : Instant} :
    x.cycleLater? = some y ↔ ∃ h : x.date.year + cycleYears ≤ lastYear, x.cycleLater h = y := by
  unfold cycleLater?
  split
  · next h => exact ⟨fun hy => ⟨h, Option.some.inj hy⟩, fun ⟨_, hy⟩ => congrArg some hy⟩
  · next h => exact ⟨nofun, fun ⟨hle, _⟩ => absurd hle h⟩

theorem cycleLater?_atHour {date : Date} {hour : Nat} (hour_lt : hour < 24) :
    (x.atHour date hour hour_lt).cycleLater? =
      date.cycleLater?.map fun later => x.atHour later hour hour_lt := by
  unfold cycleLater? Date.cycleLater?
  by_cases h : date.year + cycleYears ≤ lastYear
  · have h' : (x.atHour date hour hour_lt).date.year + cycleYears ≤ lastYear := h
    rw [dif_pos h, dif_pos h']
    rfl
  · have h' : ¬ (x.atHour date hour hour_lt).date.year + cycleYears ≤ lastYear := h
    rw [dif_neg h, dif_neg h']
    rfl

/-- **Commuting with the cycle**: the move from the later instant arrives one cycle after the move
from the earlier one, or nowhere if the calendar does not have that instant. -/
def CommutesWithCycle (move : Instant → Except CalendarError Instant) : Prop :=
  ∀ (x : Instant) (h : x.date.year + cycleYears ≤ lastYear),
    (move (x.cycleLater h)).toOption = (move x).toOption.bind cycleLater?

theorem CommutesWithCycle.eq_ok_iff {move : Instant → Except CalendarError Instant}
    (hmove : CommutesWithCycle move) (h : x.date.year + cycleYears ≤ lastYear) {z : Instant} :
    move (x.cycleLater h) = .ok z ↔ ∃ y, move x = .ok y ∧ y.cycleLater? = some z := by
  have hoption (m : Except CalendarError Instant) (y : Instant) :
      m = .ok y ↔ m.toOption = some y := by
    cases m <;> simp [Except.toOption]
  simp only [hoption, hmove x h, Option.bind_eq_some_iff]

/-- Where the later move fails, the earlier one arrives too late to be followed, if it arrives. -/
theorem CommutesWithCycle.late_of_error {move : Instant → Except CalendarError Instant}
    (hmove : CommutesWithCycle move) (h : x.date.year + cycleYears ≤ lastYear)
    {err : CalendarError} (herr : move (x.cycleLater h) = .error err) {y : Instant}
    (hy : move x = .ok y) : lastYear < y.date.year + cycleYears := by
  apply Nat.lt_of_not_le
  intro hle
  have hlater := (hmove.eq_ok_iff h).2 ⟨y, hy, cycleLater?_eq_some hle⟩
  rw [herr] at hlater
  cases hlater

/-! ### The four moves -/

theorem toOption_nextMonth (x : Instant) :
    x.nextMonth.toOption = x.date.nextMonth?.map fun date => x.atHour date 0 (by decide) := by
  unfold nextMonth
  cases x.date.nextMonth? <;> rfl

theorem toOption_nextDay (x : Instant) :
    x.nextDay.toOption = x.date.next?.map fun date => x.atHour date 0 (by decide) := by
  unfold nextDay
  cases x.date.next? <;> rfl

theorem commutesWithCycle_nextMonth : CommutesWithCycle nextMonth := by
  intro x h
  have hdate : (x.cycleLater h).date.nextMonth? = x.date.nextMonth?.bind Date.cycleLater? :=
    Date.nextMonth?_cycleLater h
  rw [toOption_nextMonth, toOption_nextMonth, hdate]
  cases x.date.nextMonth? with
  | none => rfl
  | some date => exact (cycleLater?_atHour _).symm

theorem commutesWithCycle_nextDay : CommutesWithCycle nextDay := by
  intro x h
  have hdate : (x.cycleLater h).date.next? = x.date.next?.bind Date.cycleLater? :=
    Date.next?_cycleLater h
  rw [toOption_nextDay, toOption_nextDay, hdate]
  cases x.date.next? with
  | none => rfl
  | some date => exact (cycleLater?_atHour _).symm

theorem commutesWithCycle_nextHour : CommutesWithCycle nextHour := by
  intro x h
  by_cases hhour : x.hour + 1 < 24
  · -- the date stays, and the later one is there
    have hearlier : x.nextHour = .ok (x.atHour x.date (x.hour + 1) hhour) := dif_pos hhour
    have hlater : (x.cycleLater h).nextHour =
        .ok ((x.cycleLater h).atHour (x.date.cycleLater h) (x.hour + 1) hhour) := dif_pos hhour
    rw [hearlier, hlater]
    exact (cycleLater?_eq_some (x := x.atHour x.date (x.hour + 1) hhour) h).symm
  · have hearlier : x.nextHour = x.nextDay := dif_neg hhour
    have hlater : (x.cycleLater h).nextHour = (x.cycleLater h).nextDay := dif_neg hhour
    rw [hearlier, hlater]
    exact commutesWithCycle_nextDay x h

theorem commutesWithCycle_nextMinute : CommutesWithCycle nextMinute := by
  intro x h
  by_cases hminute : x.minute + 1 < 60
  · have hearlier : x.nextMinute = .ok { x with minute := x.minute + 1, minute_lt := hminute } :=
      dif_pos hminute
    have hlater : (x.cycleLater h).nextMinute =
        .ok { x.cycleLater h with minute := x.minute + 1, minute_lt := hminute } := dif_pos hminute
    rw [hearlier, hlater]
    exact (cycleLater?_eq_some
      (x := { x with minute := x.minute + 1, minute_lt := hminute }) h).symm
  · have hearlier : x.nextMinute = x.nextHour := dif_neg hminute
    have hlater : (x.cycleLater h).nextMinute = (x.cycleLater h).nextHour := dif_neg hminute
    rw [hearlier, hlater]
    exact commutesWithCycle_nextHour x h

end Instant

end Cron.Calendar
