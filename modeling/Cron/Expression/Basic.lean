import Cron.Fields

/-! # Expressions

A parsed field keeps its text as it was written beside its terms, and an expression is five parsed
fields. Its text is the five texts with single spaces between them.
-/

namespace Cron

/-- A field that has been read. -/
structure Field where
  /-- The text as it was written. -/
  raw : String
  /-- The terms in the order they were written. -/
  terms : List Term
  deriving DecidableEq

namespace Field

/-- The field is written as a bare `*`. -/
def isWildcard (f : Field) : Bool :=
  f.terms == [.plain .wildcard]

/-- Some term of the field accepts the value. -/
def accepts (f : Field) (v : Int) : Bool :=
  anyAccepts f.terms v

end Field

/-- The five texts of an expression. -/
abbrev FieldTexts := Fields String

/-- An expression that has been read. -/
abbrev Expression := Fields Field

/-- The text of an expression: the fields as they were written, a space between two. -/
def Expression.text (e : Expression) : String :=
  " ".intercalate (e.toList.map Field.raw)

end Cron
