import Cron.Text.Numeral

/-! # Terms of a cron field

A field of a cron expression lists terms, and each term stands for a set of values of the field's
domain: any value (`*`), one value (`5`), a range (`1-5`), or every so-many-th value counted from
the beginning of one of these (`*/15`, `10/5`, `0-30/5`). This module holds domains, terms and the
values that a term accepts.

Main statement: `test_eq_accepts`, that asking a term with care for an interval of zero agrees with
the plain membership test whenever the interval is not zero.
-/

namespace Cron

/-! ## Domains -/

/-- The values that a field may hold, and the name it goes by in messages. -/
structure Domain where
  name : String
  minimum : Int
  maximum : Int
  deriving DecidableEq

instance : Membership Int Domain :=
  ⟨fun d v => d.minimum ≤ v ∧ v ≤ d.maximum⟩

theorem Domain.mem_iff {d : Domain} {v : Int} : v ∈ d ↔ d.minimum ≤ v ∧ v ≤ d.maximum :=
  Iff.rfl

instance (v : Int) (d : Domain) : Decidable (v ∈ d) :=
  inferInstanceAs (Decidable (d.minimum ≤ v ∧ v ≤ d.maximum))

/-! ## Terms -/

/-- A term without an interval. -/
inductive Base where
  /-- Any value. -/
  | wildcard
  /-- One value. -/
  | single (value : Int)
  /-- All values from the first to the last. -/
  | range (first last : Int)
  deriving DecidableEq

/-- One item of a field. -/
inductive Term where
  /-- All values of the base. -/
  | plain (base : Base)
  /-- The values that lie a multiple of the interval after the beginning of the base. -/
  | step (base : Base) (interval : Int)
  deriving DecidableEq

/-! ## Acceptance -/

/-- The base accepts the value. -/
def Base.accepts : Base → Int → Bool
  | .wildcard, _ => true
  | .single value, v => v == value
  | .range first last, v => decide (first ≤ v ∧ v ≤ last)

/-- How far a value lies after the point from which steps are counted; nothing when steps over
this base do not reach it. A wildcard counts from zero, and a single value has no upper end. -/
def Base.distance? : Base → Int → Option Int
  | .wildcard, v => some v
  | .single value, v => if value ≤ v then some (v - value) else none
  | .range first last, v => if first ≤ v ∧ v ≤ last then some (v - first) else none

/-- The term accepts the value. -/
def Term.accepts : Term → Int → Bool
  | .plain base, v => base.accepts v
  | .step base interval, v =>
    match base.distance? v with
    | some distance => decide (interval ∣ distance)
    | none => false

/-- A step had to be counted in intervals of zero. -/
inductive ZeroInterval where
  | zeroInterval
  deriving DecidableEq

/-- The same question of a term that may have been built with an interval of zero: an answer, or the
finding that it hangs on counting in intervals of zero. -/
def Term.test : Term → Int → Except ZeroInterval Bool
  | .plain base, v => .ok (base.accepts v)
  | .step base interval, v =>
    match base.distance? v with
    | some distance =>
      if interval = 0 then .error .zeroInterval else .ok (decide (interval ∣ distance))
    | none => .ok false

theorem Term.test_eq_accepts {t : Term} {v : Int} (h : ∀ base, t ≠ .step base 0) :
    t.test v = .ok (t.accepts v) := by
  cases t with
  | plain base => rfl
  | step base interval =>
    have hi : interval ≠ 0 := fun h0 => h base (by rw [h0])
    cases hd : base.distance? v <;> simp [test, Term.accepts, hd, hi]

/-- Some term of the list accepts the value. -/
def anyAccepts (terms : List Term) (v : Int) : Bool :=
  terms.any fun t => t.accepts v

/-- The first term that accepts the value decides; an interval of zero before it is found out. -/
def testAny : List Term → Int → Except ZeroInterval Bool
  | [], _ => .ok false
  | t :: ts, v =>
    match t.test v with
    | .ok false => testAny ts v
    | answer => answer

/-! ## Well-formed terms -/

/-- The base lies in the domain and is written in plain digits. -/
def Base.WellFormed (d : Domain) : Base → Prop
  | .wildcard => True
  | .single value => value ∈ d ∧ 0 ≤ value ∧ value.natAbs < Text.Numeral.limit
  | .range first last =>
    d.minimum ≤ first ∧ first ≤ last ∧ last ≤ d.maximum ∧ 0 ≤ first ∧
      last.natAbs < Text.Numeral.limit

/-- The base is well formed, and the interval is positive and written in plain digits. -/
def Term.WellFormed (d : Domain) : Term → Prop
  | .plain base => base.WellFormed d
  | .step base interval =>
    base.WellFormed d ∧ 0 < interval ∧ interval.natAbs < Text.Numeral.limit

end Cron
