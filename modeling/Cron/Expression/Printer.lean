import Cron.Expression.Basic
import Cron.Term.Printer

/-! # The canonical text of an expression

Terms have one spelling, so five lists of terms have one canonical text. It differs from the text as
it was written only in the spelling of numerals.
-/

namespace Cron

/-- The canonical text of a field. -/
def Field.canonical (f : Field) : String :=
  String.ofList (renderTerms f.terms)

/-- The canonical text of an expression. -/
def Expression.canonical (e : Expression) : String :=
  " ".intercalate (e.toList.map Field.canonical)

end Cron
