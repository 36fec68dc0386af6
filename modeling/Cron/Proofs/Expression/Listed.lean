import Cron.Proofs.Expression.RoundTrip
import Cron.Schedule

/-! # Expressions that list their values

Whatever terms a field is made of, what counts is the values of the domain that it accepts, and for
day and weekday whether it is a bare `*`. The listed form of an expression writes just that: each
field is the ascending list of the values that it accepts, Sunday under its number 0, and a bare `*`
that leaves the decision to the other field of the day rule stays.

Main statements: `accepts_listed` and `acceptsWeekday_listed`, that the fields of the listed form
accept what those of the expression accept, and `Expression.read_listed`, that it can be read.
-/

namespace Cron

open Calendar Text

/-! ## Values of a domain -/

namespace Domain

/-- The values of a domain, in ascending order. -/
def values (d : Domain) : List Int :=
  (List.range (d.maximum + 1 - d.minimum).toNat).map fun k : Nat => d.minimum + k

theorem mem_values_iff {d : Domain} {v : Int} : v ∈ d.values ↔ v ∈ d := by
  simp only [values, List.mem_map, List.mem_range, mem_iff]
  constructor
  · rintro ⟨k, hk, rfl⟩
    omega
  · rintro ⟨hmin, hmax⟩
    exact ⟨(v - d.minimum).toNat, by omega, by omega⟩

end Domain

/-! ## Listed forms -/

/-- The number under which a value is listed. Weekdays count modulo seven, so 7 becomes 0. -/
def FieldName.listedAs : FieldName → Int → Int
  | .weekday, v => v % 7
  | _, v => v

namespace Field

/-- The values of the domain that the field accepts. -/
def accepted (n : FieldName) (f : Field) : List Int :=
  n.domain.values.filter fun v => f.accepts v

/-- The numbers under which they are listed, in ascending order and each once. -/
def listed (n : FieldName) (f : Field) : List Int :=
  n.domain.values.filter fun v => v ∈ (f.accepted n).map n.listedAs

/-- The field is a bare `*` that has a part in the day rule. -/
def isOpen (n : FieldName) (f : Field) : Bool :=
  (n == .day || n == .weekday) && f.isWildcard

/-- The terms of the listed form of a field. -/
def listedTerms (n : FieldName) (f : Field) : List Term :=
  if f.isOpen n then [.plain .wildcard] else (f.listed n).map fun v => .plain (.single v)

end Field

/-- The listed form of an expression. -/
def Expression.listed (e : Expression) : Expression :=
  ofTerms (e.map fun n f => f.listedTerms n)

/-! ## What the listed form accepts -/

theorem FieldName.listedAs_mem {n : FieldName} {v : Int} (h : v ∈ n.domain) :
    n.listedAs v ∈ n.domain := by
  cases n with
  | weekday =>
    have hlow := Int.emod_nonneg v (by decide : (7 : Int) ≠ 0)
    have hhigh := Int.emod_lt_of_pos v (by decide : (0 : Int) < 7)
    exact ⟨hlow, by show v % 7 ≤ 7; omega⟩
  | _ => exact h

namespace Field

variable {n : FieldName} {f : Field} {v : Int}

theorem mem_listed_iff :
    v ∈ f.listed n ↔ ∃ w ∈ n.domain, f.accepts w = true ∧ n.listedAs w = v := by
  have haccepted {w : Int} : w ∈ f.accepted n ↔ w ∈ n.domain ∧ f.accepts w = true := by
    rw [accepted, List.mem_filter, Domain.mem_values_iff]
  rw [listed, List.mem_filter, Domain.mem_values_iff, decide_eq_true_eq, List.mem_map]
  simp only [haccepted]
  constructor
  · rintro ⟨-, w, ⟨hw, haccepts⟩, rfl⟩
    exact ⟨w, hw, haccepts, rfl⟩
  · rintro ⟨w, hw, haccepts, rfl⟩
    exact ⟨FieldName.listedAs_mem hw, w, ⟨hw, haccepts⟩, rfl⟩

/-- From Friday to Sunday, which comes first. -/
example : listed .weekday ⟨"5-7", [.plain (.range 5 7)]⟩ = [0, 5, 6] := by
  decide

theorem accepts_of_isWildcard (h : f.isWildcard = true) : f.accepts v = true := by
  have hterms : f.terms = [.plain .wildcard] := eq_of_beq h
  rw [accepts, hterms]
  rfl

/-- A list of values accepts its members. -/
theorem anyAccepts_singles {values : List Int} :
    anyAccepts (values.map fun w => .plain (.single w)) v = decide (v ∈ values) := by
  rw [Bool.eq_iff_iff]
  simp [anyAccepts, Term.accepts, Base.accepts]

/-- What a field accepts once its terms are those of the listed form. -/
theorem anyAccepts_listedTerms (hopen : f.isOpen n = false) :
    anyAccepts (f.listedTerms n) v = decide (v ∈ f.listed n) := by
  rw [listedTerms, hopen, if_neg Bool.false_ne_true, anyAccepts_singles]

/-- An open field stays as it is. -/
theorem anyAccepts_listedTerms_of_isOpen (hopen : f.isOpen n = true) :
    anyAccepts (f.listedTerms n) v = f.accepts v := by
  have hwild : f.isWildcard = true := (Bool.and_eq_true_iff.1 hopen).2
  rw [listedTerms, hopen, if_pos rfl, accepts_of_isWildcard hwild]
  rfl

/-- Apart from weekdays a value is listed under its own number. -/
theorem accepts_listed (hn : n ≠ .weekday) (hv : v ∈ n.domain) :
    anyAccepts (f.listedTerms n) v = f.accepts v := by
  cases hopen : f.isOpen n with
  | true => exact anyAccepts_listedTerms_of_isOpen hopen
  | false =>
    have hnumber (w : Int) : n.listedAs w = w := by
      cases n with
      | weekday => exact absurd rfl hn
      | _ => rfl
    rw [anyAccepts_listedTerms hopen, Bool.eq_iff_iff, decide_eq_true_eq, mem_listed_iff]
    simp only [hnumber]
    constructor
    · rintro ⟨w, -, haccepts, rfl⟩
      exact haccepts
    · intro haccepts
      exact ⟨v, hv, haccepts, rfl⟩

/-- A weekday is listed if one of its numbers is accepted. -/
theorem weekday_mem_listed_iff {weekday : Nat} (h : weekday < 7) :
    (weekday : Int) ∈ f.listed .weekday ↔
      f.accepts weekday = true ∨ weekday = 0 ∧ f.accepts 7 = true := by
  rw [mem_listed_iff]
  constructor
  · rintro ⟨w, ⟨hmin, hmax⟩, haccepts, hw⟩
    change 0 ≤ w at hmin
    change w ≤ 7 at hmax
    change w % 7 = weekday at hw
    by_cases hsunday : w = 7
    · subst hsunday
      exact Or.inr ⟨by omega, haccepts⟩
    · have hsame : w = weekday := by omega
      exact Or.inl (hsame ▸ haccepts)
  · rintro (haccepts | ⟨rfl, haccepts⟩)
    · refine ⟨weekday, ⟨?_, ?_⟩, haccepts, ?_⟩
      · show (0 : Int) ≤ weekday
        omega
      · show (weekday : Int) ≤ 7
        omega
      · show (weekday : Int) % 7 = weekday
        omega
    · exact ⟨7, by decide, haccepts, rfl⟩

theorem seven_not_mem_listed : (7 : Int) ∉ f.listed .weekday := by
  rw [mem_listed_iff]
  rintro ⟨w, -, -, hw⟩
  change w % 7 = 7 at hw
  omega

end Field

namespace Expression

variable {e : Expression}

theorem get_listed (n : FieldName) :
    e.listed.get n =
      ⟨String.ofList (renderTerms ((e.get n).listedTerms n)), (e.get n).listedTerms n⟩ := by
  rw [listed, ofTerms, Fields.get_map, Fields.get_map]

/-- The listed form fits the same weekdays: 7 is not listed, and 0 stands for it. -/
theorem acceptsWeekday_listed (date : Date) :
    e.listed.weekday.acceptsWeekday date = e.weekday.acceptsWeekday date := by
  have hterms (v : Int) :
      e.listed.weekday.accepts v = anyAccepts (e.weekday.listedTerms .weekday) v := rfl
  rw [Field.acceptsWeekday, Field.acceptsWeekday, hterms, hterms]
  cases hopen : e.weekday.isOpen .weekday with
  | true =>
    rw [Field.anyAccepts_listedTerms_of_isOpen hopen, Field.anyAccepts_listedTerms_of_isOpen hopen]
  | false =>
    rw [Field.anyAccepts_listedTerms hopen, Field.anyAccepts_listedTerms hopen,
      decide_eq_false Field.seven_not_mem_listed, Bool.and_false, Bool.or_false, Bool.eq_iff_iff,
      decide_eq_true_eq, Field.weekday_mem_listed_iff date.weekday_lt]
    simp

/-- A field of the day rule is a bare `*` in the listed form just if it was one before. -/
theorem isWildcard_listed {n : FieldName} (hn : n = .day ∨ n = .weekday) :
    (e.listed.get n).isWildcard = (e.get n).isWildcard := by
  have hopen : (e.get n).isOpen n = (e.get n).isWildcard := by
    rcases hn with rfl | rfl <;> rfl
  rw [get_listed, Field.isWildcard, Field.listedTerms, hopen]
  cases (e.get n).isWildcard with
  | true => rfl
  | false =>
    -- a list of values has no star in it
    rw [if_neg Bool.false_ne_true, beq_eq_false_iff_ne]
    cases (e.get n).listed n with
    | nil => simp
    | cons v values => simp

/-! ## Reading the listed form -/

/-- The numbers of the five domains have one digit or two. -/
theorem wellFormed_single {n : FieldName} {v : Int} (h : v ∈ n.domain) :
    (Term.plain (.single v)).WellFormed n.domain := by
  have hdomain : 0 ≤ n.domain.minimum ∧ n.domain.maximum ≤ 59 := by cases n <;> decide
  have hpow (k : Nat) (hk : 2 ≤ k) : 100 ≤ Nat.pow 10 k :=
    Nat.pow_le_pow_right (by decide : 0 < 10) hk
  have hlimit : 100 ≤ Numeral.limit := by
    unfold Numeral.limit
    exact hpow Numeral.maxDigits (by decide)
  obtain ⟨hmin, hmax⟩ := Domain.mem_iff.1 h
  exact ⟨h, by omega, by omega⟩

/-- So they are below the limit of numerals. -/
theorem natAbs_lt_limit_of_mem {n : FieldName} {v : Int} (h : v ∈ n.domain) :
    v.natAbs < Numeral.limit := by
  have hterm : (Term.plain (.single v)).WellFormed n.domain := wellFormed_single h
  obtain ⟨-, -, hlimit⟩ := hterm
  exact hlimit

theorem wellFormed_listedTerms (n : FieldName) (f : Field) :
    ∀ t ∈ f.listedTerms n, t.WellFormed n.domain := by
  intro t ht
  unfold Field.listedTerms at ht
  split at ht
  · rw [List.mem_singleton.1 ht]
    trivial
  · obtain ⟨v, hv, rfl⟩ := List.mem_map.1 ht
    exact wellFormed_single (Domain.mem_values_iff.1 (List.mem_filter.1 hv).1)

theorem listedTerms_ne_nil {n : FieldName} {f : Field}
    (h : f.isOpen n = true ∨ ∃ v ∈ n.domain, f.accepts v = true) : f.listedTerms n ≠ [] := by
  unfold Field.listedTerms
  split
  · exact List.cons_ne_nil _ _
  · next hopen =>
    obtain ⟨v, hv, haccepts⟩ := h.resolve_left hopen
    have hlisted : n.listedAs v ∈ f.listed n := Field.mem_listed_iff.2 ⟨v, hv, haccepts, rfl⟩
    exact List.ne_nil_of_mem (List.mem_map_of_mem hlisted)

/-- **Reading**: where no field is without values, the text of the listed form is read as it. -/
theorem read_listed
    (h : ∀ n : FieldName, (e.get n).isOpen n = true ∨ ∃ v ∈ n.domain, (e.get n).accepts v = true) :
    Expression.read e.listed.text = .ok e.listed := by
  rw [listed, text_ofTerms]
  refine read_renderFields fun n => ?_
  rw [Fields.get_map]
  exact ⟨listedTerms_ne_nil (h n), wellFormed_listedTerms n (e.get n)⟩

end Expression

end Cron
