import Cron.Expression.Reader
import Cron.Term.Printer

/-! # Descriptions

An expression is described by one English sentence of clauses, with commas between them. The time
comes first: a single minute and a single hour make a clock reading, anything else one clause for
the minute and one for the hour. The date follows, by day, month and weekday, where a bare `*` says
nothing. Names of common schedules have sentences of their own.
-/

namespace Cron

open Text

/-! ## Names and numbers -/

/-- The months by their short names. -/
def monthNames : List String :=
  ["Jan", "Feb", "Mar", "Apr", "May", "Jun", "Jul", "Aug", "Sep", "Oct", "Nov", "Dec"]

/-- The weekdays by their short names, Sunday first. -/
def weekdayNames : List String :=
  ["Sun", "Mon", "Tue", "Wed", "Thu", "Fri", "Sat"]

/-- The short name of a month, 1 to 12. -/
def monthName (month : Int) : String :=
  monthNames.getD (month - 1).toNat ""

/-- The short name of a weekday, 0 to 7. -/
def weekdayName (weekday : Int) : String :=
  weekdayNames.getD (weekday % 7).toNat ""

/-- A number of at least two digits. -/
def twoDigits (n : Int) : String :=
  String.ofList (Numeral.padded 2 n.toNat)

/-! ## Phrases -/

/-- The phrases for one field. Each takes values that are written out already. -/
structure Phrases where
  /-- What an interval counts. -/
  noun : String
  /-- How a value is written. -/
  write : Int → String
  /-- How the end of a range is written, where the range is a clause of its own. -/
  writeEnd : Int → String
  /-- The clause for a bare `*`, if it has one. -/
  always? : Option String
  /-- The clause for one value. -/
  only : String → String
  /-- The clause for a range. -/
  between : String → String → String
  /-- The clause for a list of terms. -/
  among : String → String
  /-- The clause for the value from which an interval counts. -/
  onward : String → String

/-- The phrases for a field. -/
def FieldName.phrases : FieldName → Phrases
  | minute =>
    { noun := "minute"
      write := twoDigits
      writeEnd := Int.repr
      always? := some "every minute"
      only := fun v => "at minute " ++ v
      between := fun first last => "from minute " ++ first ++ " to " ++ last
      among := fun vs => "at minutes " ++ vs
      onward := fun v => "starting at minute " ++ v }
  | hour =>
    { noun := "hour"
      write := twoDigits
      writeEnd := twoDigits
      always? := none
      only := fun v => "at hour " ++ v
      between := fun first last => "from " ++ first ++ ":00 to " ++ last ++ ":59"
      among := fun vs => "at hours " ++ vs
      onward := fun v => "starting at " ++ v ++ ":00" }
  | day =>
    { noun := "day"
      write := Int.repr
      writeEnd := Int.repr
      always? := none
      only := fun v => "on day " ++ v
      between := fun first last => "from day " ++ first ++ " to " ++ last
      among := fun vs => "on days " ++ vs
      onward := fun v => "starting on day " ++ v }
  | month =>
    { noun := "month"
      write := monthName
      writeEnd := monthName
      always? := none
      only := fun v => "in " ++ v
      between := fun first last => "from " ++ first ++ " to " ++ last
      among := fun vs => "in " ++ vs
      onward := fun v => "starting in " ++ v }
  | weekday =>
    { noun := "weekday"
      write := weekdayName
      writeEnd := weekdayName
      always? := none
      only := fun v => "on " ++ v
      between := fun first last => "from " ++ first ++ " to " ++ last
      among := fun vs => "on " ++ vs
      onward := fun v => "starting on " ++ v }

/-! ## Clauses -/

namespace Phrases

/-- The clause for a range of values. -/
def range (p : Phrases) (first last : Int) : String :=
  p.between (p.writeEnd first) (p.writeEnd last)

/-- The clause for a base that stands alone. -/
def base? (p : Phrases) : Base → Option String
  | .wildcard => p.always?
  | .single value => some (p.only (p.write value))
  | .range first last => some (p.range first last)

/-- What an interval is counted over, as the end of its clause. -/
def scope (p : Phrases) : Base → String
  | .wildcard => ""
  | .single value => " " ++ p.onward (p.write value)
  | .range first last => " " ++ p.range first last

/-- The clause for an interval; the noun is in the plural from two on. -/
def step (p : Phrases) (base : Base) (interval : Int) : String :=
  "every " ++ interval.repr ++ " " ++ p.noun ++ (if 1 < interval then "s" else "") ++ p.scope base

/-- A term as one of several. -/
def item (p : Phrases) : Term → String
  | .plain (.single value) => p.write value
  | .plain (.range first last) => p.write first ++ "-" ++ p.write last
  | t => toString t

/-- The clause for the terms of a field, if they have one. -/
def clause? (p : Phrases) : List Term → Option String
  | [.plain base] => p.base? base
  | [.step base interval] => some (p.step base interval)
  | terms => some (p.among (", ".intercalate (terms.map p.item)))

end Phrases

/-! ## Sentences -/

/-- The sentence for a text that is no expression. -/
def invalidSentence : String := "Invalid cron expression"

namespace Expression

/-- The clause for one field of the expression, if it has one. -/
def clause? (e : Expression) (f : FieldName) : Option String :=
  f.phrases.clause? (e.get f).terms

/-- The clauses for the time of day. -/
def timeClauses (e : Expression) : List String :=
  match e.minute.terms, e.hour.terms with
  | [.plain (.single minute)], [.plain (.single hour)] =>
    ["At " ++ twoDigits hour ++ ":" ++ twoDigits minute]
  | _, _ => [FieldName.minute, .hour].filterMap e.clause?

/-- The clauses for the date. -/
def dateClauses (e : Expression) : List String :=
  [FieldName.day, .month, .weekday].filterMap e.clause?

/-- The sentence for an expression. -/
def sentence (e : Expression) : String :=
  ", ".intercalate (e.timeClauses ++ e.dateClauses)

end Expression

/-- The sentence for a text: that of a name, if it is one, else that of its expression. -/
def describe (text : String) : String :=
  match Expression.read text, Alias.find? text with
  | .error _, _ => invalidSentence
  | .ok _, some a => a.description
  | .ok e, none => e.sentence

example : describe "*/15 9-17 * * 1-5" =
    "every 15 minutes, from 09:00 to 17:59, from Mon to Fri" := by decide

end Cron
