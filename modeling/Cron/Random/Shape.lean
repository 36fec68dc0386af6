import Cron.Random.Choice
import Cron.Text.Quoted

/-! # Random expressions

A random expression has one of six shapes, and each shape chooses the numbers in it. Every text that
a shape can lead to is a valid expression, and one that fires within a month.
-/

namespace Cron.Random

/-- The kinds of random expressions. -/
inductive Shape where
  /-- Once a day at a minute of an hour. -/
  | exactTime
  /-- Every hour of a part of the day. -/
  | hourRange
  /-- Once a month, on a day that every month has. -/
  | monthly
  /-- Every so many hours. -/
  | stepHours
  /-- Every so many minutes. -/
  | stepMinutes
  /-- Once a week. -/
  | weekly
  deriving DecidableEq

/-- A name that no shape has. -/
structure UnknownShape where
  name : String
  deriving DecidableEq

/-- The wording for an unknown shape. -/
def UnknownShape.message (e : UnknownShape) : String :=
  "Found unregistered shape: " ++ Text.quoted e.name ++
    ". If you are developer, ensure you register it in cronsight.generator.generator."

namespace Shape

/-- All shapes, in the order of their names. -/
def all : List Shape := [exactTime, hourRange, monthly, stepHours, stepMinutes, weekly]

/-- The name of a shape. -/
def name : Shape → String
  | exactTime => "ExactTime"
  | hourRange => "HourRange"
  | monthly => "Monthly"
  | stepHours => "StepHours"
  | stepMinutes => "StepMinutes"
  | weekly => "Weekly"

/-- The shape of a name. -/
def ofName (name : String) : Except UnknownShape Shape :=
  match all.find? fun s => s.name == name with
  | some s => .ok s
  | none => .error ⟨name⟩

@[simp] theorem ofName_name (s : Shape) : ofName s.name = .ok s := by
  cases s <;> rfl

/-- The choices that lead to an expression of the shape. -/
def expression : Shape → Choice String
  | exactTime => do
    let minute ← Choice.between 0 59
    let hour ← Choice.between 0 23
    return minute.repr ++ " " ++ hour.repr ++ " * * *"
  | hourRange => do
    let first ← Choice.between 0 19
    let last ← Choice.between first 23
    return "0 " ++ first.repr ++ "-" ++ last.repr ++ " * * *"
  | monthly => do
    let hour ← Choice.between 0 23
    let day ← Choice.between 1 28
    return "0 " ++ hour.repr ++ " " ++ day.repr ++ " * *"
  | stepHours => do
    let interval ← Choice.oneOf 1 [2, 3, 6, 12]
    return "0 */" ++ interval.repr ++ " * * *"
  | stepMinutes => do
    let interval ← Choice.oneOf 5 [10, 15, 30]
    return "*/" ++ interval.repr ++ " * * * *"
  | weekly => do
    let hour ← Choice.between 0 23
    let weekday ← Choice.between 0 6
    return "0 " ++ hour.repr ++ " * * " ++ weekday.repr

end Shape

/-- The choices that lead to an expression of any shape. -/
def anyExpression : Choice String := do
  let shape ← Choice.oneOf Shape.exactTime [.hourRange, .monthly, .stepHours, .stepMinutes, .weekly]
  shape.expression

/-- The choices that lead to an expression of the shape of a name, or of any shape without one. -/
def expressionOf (shape : Option String) : Except UnknownShape (Choice String) :=
  match shape with
  | none => .ok anyExpression
  | some name => (Shape.ofName name).map Shape.expression

end Cron.Random
