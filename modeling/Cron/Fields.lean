import Cron.Term.Basic

/-! # The five fields

A cron expression has five fields in a fixed order: minute, hour, day of the month, month and
weekday. `Fields α` holds one `α` for each; raw texts and parsed fields are both kept in it.
-/

namespace Cron

/-! ## Names and domains -/

/-- The fields of a cron expression, in the order they are written. -/
inductive FieldName where
  | minute
  | hour
  | day
  | month
  | weekday
  deriving DecidableEq

namespace FieldName

/-- All fields, in the order they are written. -/
def all : List FieldName := [minute, hour, day, month, weekday]

/-- The name of a field in messages. -/
def name : FieldName → String
  | minute => "minute"
  | hour => "hour"
  | day => "day"
  | month => "month"
  | weekday => "weekday"

instance : ToString FieldName := ⟨name⟩

/-- The values that a field may hold; weekday 0 and weekday 7 are both Sunday. -/
def domain : FieldName → Domain
  | minute => ⟨"minute", 0, 59⟩
  | hour => ⟨"hour", 0, 23⟩
  | day => ⟨"day", 1, 31⟩
  | month => ⟨"month", 1, 12⟩
  | weekday => ⟨"weekday", 0, 7⟩

@[simp] theorem name_domain (f : FieldName) : f.domain.name = f.name := by
  cases f <;> rfl

/-- The field of a name, where there is one. -/
def ofName? (name : String) : Option FieldName :=
  all.find? fun f => f.name == name

end FieldName

/-! ## One value for each field -/

/-- One value for each field. -/
structure Fields (α : Type) where
  minute : α
  hour : α
  day : α
  month : α
  weekday : α
  deriving DecidableEq

namespace Fields

variable {α β : Type}

/-- The value of one field. -/
def get (fs : Fields α) : FieldName → α
  | .minute => fs.minute
  | .hour => fs.hour
  | .day => fs.day
  | .month => fs.month
  | .weekday => fs.weekday

/-- The values in the order the fields are written. -/
def toList (fs : Fields α) : List α :=
  [fs.minute, fs.hour, fs.day, fs.month, fs.weekday]

/-- Exactly five values, one for each field. -/
def ofList? : List α → Option (Fields α)
  | [minute, hour, day, month, weekday] => some ⟨minute, hour, day, month, weekday⟩
  | _ => none

theorem ofList?_eq_some_iff {values : List α} {fs : Fields α} :
    ofList? values = some fs ↔ values = fs.toList := by
  constructor
  · intro h
    unfold ofList? at h
    split at h
    · cases h; rfl
    · cases h
  · rintro rfl; rfl

theorem ofList?_eq_none_iff {values : List α} : ofList? values = none ↔ values.length ≠ 5 := by
  constructor
  · intro h hlen
    match values, hlen with
    | [_, _, _, _, _], _ => cases h
  · intro h
    unfold ofList?
    split
    · simp at h
    · rfl

/-- The values changed by a function that knows the field. -/
def map (f : FieldName → α → β) (fs : Fields α) : Fields β :=
  ⟨f .minute fs.minute, f .hour fs.hour, f .day fs.day, f .month fs.month, f .weekday fs.weekday⟩

@[simp] theorem get_map (f : FieldName → α → β) (fs : Fields α) (n : FieldName) :
    (fs.map f).get n = f n (fs.get n) := by
  cases n <;> rfl

end Fields

end Cron
