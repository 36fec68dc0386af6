import Cron.Calendar.Instant
import Cron.Expression.Basic

/-! # When an expression fires

An expression fires at the beginning of every minute whose month, hour and minute its fields accept
and whose date passes the day rule. The day rule joins two fields: while one of them is a bare `*`
the other decides, and two restricted fields are alternatives. Sunday is weekday 0 and weekday 7.

`Expression.Fires` states the rule, and `Expression.dayAccepts` is its computable part for dates;
`dayAccepts_eq_true_iff` ties the two together.
-/

namespace Cron

open Calendar

/-! ## The rule -/

/-- A weekday field fits a date when it accepts the weekday, under either number for Sunday. -/
def FitsWeekday (f : Field) (date : Date) : Prop :=
  f.accepts date.weekday ∨ date.weekday = 0 ∧ f.accepts 7

namespace Expression

/-- The day rule: a bare `*` leaves the decision to the other field, and two restricted fields are
alternatives. -/
def DayRule (e : Expression) (date : Date) : Prop :=
  if e.day.isWildcard then e.weekday.isWildcard ∨ FitsWeekday e.weekday date
  else if e.weekday.isWildcard then e.day.accepts date.day = true
  else e.day.accepts date.day = true ∨ FitsWeekday e.weekday date

/-- The expression fires in the minute of `x`. -/
def Fires (e : Expression) (x : Instant) : Prop :=
  e.month.accepts x.date.month ∧ e.DayRule x.date ∧ e.hour.accepts x.hour ∧
    e.minute.accepts x.minute

end Expression

/-! ## Deciding it -/

/-- The weekday field accepts the weekday of a date. -/
def Field.acceptsWeekday (f : Field) (date : Date) : Bool :=
  f.accepts date.weekday || (date.weekday == 0 && f.accepts 7)

theorem Field.acceptsWeekday_eq_true_iff {f : Field} {date : Date} :
    f.acceptsWeekday date = true ↔ FitsWeekday f date := by
  simp [Field.acceptsWeekday, FitsWeekday]

namespace Expression

/-- The date passes the day rule. -/
def dayAccepts (e : Expression) (date : Date) : Bool :=
  match e.day.isWildcard, e.weekday.isWildcard with
  | true, true => true
  | true, false => e.weekday.acceptsWeekday date
  | false, true => e.day.accepts date.day
  | false, false => e.day.accepts date.day || e.weekday.acceptsWeekday date

theorem dayAccepts_eq_true_iff {e : Expression} {date : Date} :
    e.dayAccepts date = true ↔ e.DayRule date := by
  cases hd : e.day.isWildcard <;> cases hw : e.weekday.isWildcard <;>
    simp [dayAccepts, DayRule, hd, hw, Field.acceptsWeekday_eq_true_iff]

instance (e : Expression) (date : Date) : Decidable (e.DayRule date) :=
  decidable_of_iff _ dayAccepts_eq_true_iff

instance (e : Expression) (x : Instant) : Decidable (e.Fires x) :=
  inferInstanceAs (Decidable (_ ∧ _))

end Expression

end Cron
