import Cron.Calendar.Date

/-! # Instants

An instant is a wall-clock reading: a date, a time of day down to the microsecond, and the offset
from universal time it was given with, if any. Instants are compared and moved by their wall-clock
fields alone; a move keeps the offset.

The four moves go to the next minute, hour, day and month. Each starts its own unit over, keeps the
seconds and microseconds, and carries into the next larger move at the end of that unit; so all of
them end where the calendar ends. Main statements: `minutes_nextMinute`, `minutes_nextHour` and
`minutes_nextDay` say where each move arrives.
-/

namespace Cron.Calendar

/-! ## Readings -/

/-- A wall-clock reading. -/
@[ext] structure Instant where
  date : Date
  hour : Nat
  minute : Nat
  second : Nat
  microsecond : Nat
  hour_lt : hour < 24
  minute_lt : minute < 60
  second_lt : second < 60
  microsecond_lt : microsecond < 1000000
  /-- The offset from universal time in seconds, where one was given. -/
  offset : Option Int
  deriving DecidableEq

/-- Why there is no instant to go to. -/
inductive CalendarError where
  /-- A month would begin in a year that the calendar does not have. -/
  | yearOutOfRange (year : Nat)
  /-- A day would follow the last day of the calendar. -/
  | dateOutOfRange
  deriving DecidableEq

/-- The wording of a calendar error. -/
def CalendarError.message : CalendarError → String
  | .yearOutOfRange year => "year " ++ year.repr ++ " is out of range"
  | .dateOutOfRange => "date value out of range"

namespace Instant

/-- Midnight at the beginning of a date. -/
def ofDate (date : Date) (offset : Option Int) : Instant :=
  ⟨date, 0, 0, 0, 0, by decide, by decide, by decide, by decide, offset⟩

/-- The whole minutes of the calendar before the minute of `x`. -/
def minutes (x : Instant) : Nat :=
  (x.date.ordinal * 24 + x.hour) * 60 + x.minute

/-- The microseconds of the wall clock up to `x`. -/
def ticks (x : Instant) : Nat :=
  (x.minutes * 60 + x.second) * 1000000 + x.microsecond

instance : LT Instant := ⟨fun x y => x.ticks < y.ticks⟩
instance : LE Instant := ⟨fun x y => x.ticks ≤ y.ticks⟩

theorem lt_def {x y : Instant} : x < y ↔ x.ticks < y.ticks := Iff.rfl
theorem le_def {x y : Instant} : x ≤ y ↔ x.ticks ≤ y.ticks := Iff.rfl

instance (x y : Instant) : Decidable (x < y) := inferInstanceAs (Decidable (x.ticks < y.ticks))
instance (x y : Instant) : Decidable (x ≤ y) := inferInstanceAs (Decidable (x.ticks ≤ y.ticks))

/-- The instant begins a minute. -/
def IsWholeMinute (x : Instant) : Prop :=
  x.second = 0 ∧ x.microsecond = 0

instance (x : Instant) : Decidable x.IsWholeMinute := inferInstanceAs (Decidable (_ ∧ _))

/-- The beginning of the minute of `x`. -/
def truncate (x : Instant) : Instant :=
  { x with second := 0, microsecond := 0, second_lt := by decide, microsecond_lt := by decide }

theorem isWholeMinute_truncate (x : Instant) : x.truncate.IsWholeMinute :=
  ⟨rfl, rfl⟩

theorem minutes_truncate (x : Instant) : x.truncate.minutes = x.minutes :=
  rfl

theorem ticks_of_isWholeMinute {x : Instant} (h : x.IsWholeMinute) :
    x.ticks = x.minutes * 60000000 := by
  simp only [ticks, h.1, h.2]
  omega

/-! ## Moves -/

/-- The reading at `hour` o'clock of another date, seconds and offset kept. -/
def atHour (x : Instant) (date : Date) (hour : Nat) (hour_lt : hour < 24) : Instant :=
  { x with date, hour, minute := 0, hour_lt, minute_lt := by decide }

/-- The first hour of the next month. -/
def nextMonth (x : Instant) : Except CalendarError Instant :=
  match x.date.nextMonth? with
  | some date => .ok (x.atHour date 0 (by decide))
  | none => .error (.yearOutOfRange (x.date.year + 1))

/-- The first hour of the next day. -/
def nextDay (x : Instant) : Except CalendarError Instant :=
  match x.date.next? with
  | some date => .ok (x.atHour date 0 (by decide))
  | none => .error .dateOutOfRange

/-- The first minute of the next hour. -/
def nextHour (x : Instant) : Except CalendarError Instant :=
  if h : x.hour + 1 < 24 then .ok (x.atHour x.date (x.hour + 1) h) else x.nextDay

/-- The next minute. -/
def nextMinute (x : Instant) : Except CalendarError Instant :=
  if h : x.minute + 1 < 60 then .ok { x with minute := x.minute + 1, minute_lt := h }
  else x.nextHour

theorem minutes_nextDay {x y : Instant} (h : x.nextDay = .ok y) :
    y.minutes = (x.date.ordinal + 1) * 1440 := by
  unfold nextDay at h
  split at h
  · next date hd =>
    cases h
    simp only [minutes, atHour, Date.ordinal_next? hd]
    omega
  · cases h

theorem minutes_nextHour {x y : Instant} (h : x.nextHour = .ok y) :
    y.minutes = (x.date.ordinal * 24 + x.hour + 1) * 60 := by
  unfold nextHour at h
  split at h
  · cases h
    simp only [minutes, atHour]
    omega
  · next hx =>
    -- the last hour of the day: its end is the end of the day
    have hhour : x.hour = 23 := by have := x.hour_lt; omega
    rw [minutes_nextDay h, hhour, Nat.add_mul, Nat.add_mul, Nat.add_mul, Nat.mul_assoc]

/-- The next minute is one minute on. -/
theorem minutes_nextMinute {x y : Instant} (h : x.nextMinute = .ok y) :
    y.minutes = x.minutes + 1 := by
  unfold nextMinute at h
  split at h
  · cases h
    simp only [minutes]
    omega
  · next hx =>
    -- the last minute of the hour: its end is the end of the hour
    have hminute : x.minute = 59 := by have := x.minute_lt; omega
    rw [minutes_nextHour h, minutes, hminute, Nat.add_mul]

/-! ## What moves keep -/

/-- The two readings agree in seconds, microseconds and offset. -/
def SameRest (x y : Instant) : Prop :=
  y.second = x.second ∧ y.microsecond = x.microsecond ∧ y.offset = x.offset

theorem sameRest_nextMonth {x y : Instant} (h : x.nextMonth = .ok y) : x.SameRest y := by
  unfold nextMonth at h
  split at h
  · cases h
    exact ⟨rfl, rfl, rfl⟩
  · cases h

theorem sameRest_nextDay {x y : Instant} (h : x.nextDay = .ok y) : x.SameRest y := by
  unfold nextDay at h
  split at h
  · cases h
    exact ⟨rfl, rfl, rfl⟩
  · cases h

theorem sameRest_nextHour {x y : Instant} (h : x.nextHour = .ok y) : x.SameRest y := by
  unfold nextHour at h
  split at h
  · cases h
    exact ⟨rfl, rfl, rfl⟩
  · exact sameRest_nextDay h

theorem sameRest_nextMinute {x y : Instant} (h : x.nextMinute = .ok y) : x.SameRest y := by
  unfold nextMinute at h
  split at h
  · cases h
    exact ⟨rfl, rfl, rfl⟩
  · exact sameRest_nextHour h

/-- Moves lead from whole minutes to whole minutes. -/
theorem SameRest.isWholeMinute {x y : Instant} (h : x.SameRest y) (hx : x.IsWholeMinute) :
    y.IsWholeMinute :=
  ⟨h.1.trans hx.1, h.2.1.trans hx.2⟩

end Instant

end Cron.Calendar
