import Cron.Schedule
import Cron.Text.Quoted

/-! # Verdicts on an instant

A search judges each instant it visits: either the expression fires there, or some field is the
coarsest to refuse it. In the second case nothing fires before the next unit of that field begins, so
the search may resume there. Main statement: `judge_eq_fires_iff`.
-/

namespace Cron.Search

open Calendar

/-! ## Verdicts -/

/-- What is found of an instant. -/
inductive Verdict where
  /-- The month is refused. -/
  | wrongMonth
  /-- The month is right, the date is refused. -/
  | wrongDay
  /-- The date is right, the hour is refused. -/
  | wrongHour
  /-- The hour is right, the minute is refused. -/
  | wrongMinute
  /-- The expression fires. -/
  | fires
  deriving DecidableEq

/-- A name that no verdict has. -/
structure UnknownVerdict where
  name : String
  deriving DecidableEq

/-- The wording for an unknown verdict; a long name is cut short. -/
def UnknownVerdict.message (e : UnknownVerdict) : String :=
  let cited := (Text.quoted e.name).toList
  let shown := if 100 < cited.length then cited.take 100 ++ ['.', '.', '.'] else cited
  "Expected code to be unreachable, but got: " ++ String.ofList shown

namespace Verdict

/-- All verdicts, from the coarsest field to none. -/
def all : List Verdict := [wrongMonth, wrongDay, wrongHour, wrongMinute, fires]

/-- The name of a verdict: what the search has to look for next. -/
def name : Verdict → String
  | wrongMonth => "SeekMonth"
  | wrongDay => "SeekDay"
  | wrongHour => "SeekHour"
  | wrongMinute => "SeekMinute"
  | fires => "Found"

/-- The verdict of a name. -/
def ofName (name : String) : Except UnknownVerdict Verdict :=
  match all.find? fun v => v.name == name with
  | some v => .ok v
  | none => .error ⟨name⟩

@[simp] theorem ofName_name (v : Verdict) : ofName v.name = .ok v := by
  cases v <;> rfl

/-- The first instant after `x` worth judging: the beginning of the next month, day, hour or minute.
After a finding the search resumes with the next minute. -/
def resume (x : Instant) : Verdict → Except CalendarError Instant
  | wrongMonth => x.nextMonth
  | wrongDay => x.nextDay
  | wrongHour => x.nextHour
  | wrongMinute | fires => x.nextMinute

end Verdict

/-! ## Judging -/

/-- The coarsest field that refuses the instant, or that none does. -/
def judge (e : Expression) (x : Instant) : Verdict :=
  if !e.month.accepts x.date.month then .wrongMonth
  else if !e.dayAccepts x.date then .wrongDay
  else if !e.hour.accepts x.hour then .wrongHour
  else if !e.minute.accepts x.minute then .wrongMinute
  else .fires

theorem judge_eq_fires_iff {e : Expression} {x : Instant} : judge e x = .fires ↔ e.Fires x := by
  unfold judge Expression.Fires
  rw [← Expression.dayAccepts_eq_true_iff]
  repeat' split
  all_goals simp_all

end Cron.Search
