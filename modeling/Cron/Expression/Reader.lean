import Cron.Expression.Alias
import Cron.Expression.Basic
import Cron.Term.Reader

/-! # Reading expressions

A text is read in three stages: a name is replaced by the expression it stands for, the words of the
text are counted, and each of the five is read as a field of its domain. The first stage that fails
gives the reason, and within the last one the first bad field does.
-/

namespace Cron

open Text

/-! ## Rejections -/

/-- Why a text is no expression. -/
inductive Rejection where
  /-- The text has fewer or more than five words. -/
  | wrongCount
  /-- A field has a bad term. -/
  | badField (field : BadField)
  deriving DecidableEq

namespace Rejection

/-- The wording of a rejection. -/
def message : Rejection → String
  | wrongCount => "Cron expression must have exactly 5 fields"
  | badField e => e.message

/-- The name of the field to blame, if there is one. -/
def field? : Rejection → Option String
  | wrongCount => none
  | badField e => some e.field

end Rejection

/-! ## Stages -/

/-- The five words of a text. -/
def FieldTexts.read (text : String) : Except Rejection FieldTexts :=
  match Fields.ofList? ((words text.toList).map String.ofList) with
  | some texts => .ok texts
  | none => .error .wrongCount

/-- One field, read in its domain. -/
def Field.read (name : FieldName) (raw : String) : Except Rejection Field :=
  match name.domain.readField raw with
  | .ok terms => .ok ⟨raw, terms⟩
  | .error e => .error (.badField e)

namespace Expression

/-- The expression of five texts, or the first bad field in the order they are written. -/
def ofTexts (texts : FieldTexts) : Except Rejection Expression := do
  let minute ← Field.read .minute texts.minute
  let hour ← Field.read .hour texts.hour
  let day ← Field.read .day texts.day
  let month ← Field.read .month texts.month
  let weekday ← Field.read .weekday texts.weekday
  return ⟨minute, hour, day, month, weekday⟩

/-- The expression that a text writes or names. -/
def read (text : String) : Except Rejection Expression := do
  let texts ← FieldTexts.read (Alias.expand text)
  ofTexts texts

end Expression

end Cron
