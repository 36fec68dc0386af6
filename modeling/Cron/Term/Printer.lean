import Cron.Term.Basic

/-! # Terms as text

The one way to write a term: values as shortest numerals, a dash between the ends of a range, a
slash before an interval, commas between the terms of a field.
-/

namespace Cron

open Text

/-- The characters of a base. -/
def Base.render : Base → List Char
  | .wildcard => ['*']
  | .single value => Numeral.render value
  | .range first last => Numeral.render first ++ '-' :: Numeral.render last

/-- The characters of a term. -/
def Term.render : Term → List Char
  | .plain base => base.render
  | .step base interval => base.render ++ '/' :: Numeral.render interval

instance : ToString Base :=
  ⟨fun b => String.ofList b.render⟩

instance : ToString Term :=
  ⟨fun t => String.ofList t.render⟩

/-- The characters of a list of terms, commas between them. -/
def renderTerms (terms : List Term) : List Char :=
  [','].intercalate (terms.map Term.render)

end Cron
