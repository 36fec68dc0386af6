import Cron.Term.Basic
import Cron.Text.Cut

/-! # Reading terms

A term is read by its marks: with a slash it is a step, else with a dash a range, else `*` or a
single value. The first mark decides, so whatever is left over stands where a numeral is expected
and is refused there. Every value has to lie in the field's domain, the ends of a range in order.
-/

namespace Cron

open Text

/-! ## Faults -/

/-- What is wrong with a term. -/
inductive Fault where
  /-- No numeral, or a value outside the domain; holds the text. -/
  | badValue (text : String)
  /-- No two numerals, or ends that are out of order or outside the domain. -/
  | badRange
  /-- No numeral, or an interval below one. -/
  | badInterval
  deriving DecidableEq

/-- A fault and the name of the field it stands in. -/
structure BadField where
  field : String
  fault : Fault
  deriving DecidableEq

/-- The wording of a fault in a field. -/
def BadField.message (e : BadField) : String :=
  match e.fault with
  | .badValue text => "Invalid value in " ++ e.field ++ ": " ++ text
  | .badRange => "Invalid range in " ++ e.field
  | .badInterval => "Invalid step value in " ++ e.field

/-! ## Readers -/

namespace Domain

/-- A single value of the domain. -/
def readSingle (d : Domain) (cs : List Char) : Except Fault Base :=
  match Numeral.readPlain cs with
  | some value =>
    if value ∈ d then .ok (.single value) else .error (.badValue (String.ofList cs))
  | none => .error (.badValue (String.ofList cs))

/-- A range of the domain, from what stands before and after its dash. -/
def readRange (d : Domain) (before after : List Char) : Except Fault Base :=
  match Numeral.readPlain before, Numeral.readPlain after with
  | some first, some last =>
    if d.minimum ≤ first ∧ first ≤ last ∧ last ≤ d.maximum then .ok (.range first last)
    else .error .badRange
  | _, _ => .error .badRange

/-- A term without an interval. -/
def readBase (d : Domain) (cs : List Char) : Except Fault Base :=
  if cs = ['*'] then .ok .wildcard
  else
    match cut '-' cs with
    | some (before, after) => d.readRange before after
    | none => d.readSingle cs

/-- One term. The interval is looked at before the base. -/
def readTerm (d : Domain) (cs : List Char) : Except Fault Term :=
  match cut '/' cs with
  | none => (d.readBase cs).map .plain
  | some (before, after) =>
    match Numeral.readPlain after with
    | some interval =>
      if 0 < interval then (d.readBase before).map fun base => .step base interval
      else .error .badInterval
    | none => .error .badInterval

/-- The terms of a list of texts, or the fault of the first one that is none. -/
def readTerms (d : Domain) : List (List Char) → Except Fault (List Term)
  | [] => .ok []
  | cs :: rest =>
    match d.readTerm cs with
    | .error fault => .error fault
    | .ok term => (d.readTerms rest).map (term :: ·)

/-- The terms of a field, which commas part. -/
def readField (d : Domain) (text : String) : Except BadField (List Term) :=
  (d.readTerms (text.toList.splitOn ',')).mapError fun fault => ⟨d.name, fault⟩

/-- The one place for a minus sign is before a zero at the end of a range. -/
example : (Domain.readTerm ⟨"minute", 0, 59⟩ "0--0/15".toList).toOption =
    some (.step (.range 0 0) 15) := by decide

end Domain

end Cron
