import Cron.Proofs.Term.WellFormed

/-! # Fields that accept nothing

A field that can be read may still accept none of the values of its domain. A single value and a
range accept the value they begin with, and steps over them do as well, so there is one way only to
miss a domain: steps over `*` count from zero, and the domain may hold no multiple of the interval.
A domain with zero holds a multiple of every interval, and a domain that begins at one holds a
multiple of every interval up to its maximum.

Main statements: `Term.accepts_none_iff`, `Domain.readField_accepts_none_iff`, and
`Term.misses_iff_maximum_lt` for the domains that begin at one.
-/

namespace Cron

/-! ## Terms -/

namespace Term

variable {d : Domain} {t : Term}

/-- **Missing a domain**: the term is a step over `*`, and the domain holds no multiple of its
interval. -/
def Misses (d : Domain) (t : Term) : Prop :=
  ∃ interval, t = .step .wildcard interval ∧ ¬ ∃ v ∈ d, interval ∣ v

theorem accepts_step_wildcard_iff {interval v : Int} :
    (Term.step .wildcard interval).accepts v = true ↔ interval ∣ v := by
  simp [accepts, Base.distance?]

/-- Only a star can begin outside the domain. -/
theorem base_eq_wildcard (h : t.WellFormed d) (hnone : ∀ v ∈ d, t.accepts v = false) :
    t.base = .wildcard := by
  by_cases hb : t.base = .wildcard
  · exact hb
  · -- the value from which any other term counts is accepted
    have hstart : t.base.start ∈ d := Base.start_mem_of_ne_wildcard (base_wellFormed h) hb
    have haccepts : t.accepts t.base.start = true := accepts_start h
    rw [hnone _ hstart] at haccepts
    cases haccepts

/-- A well-formed term accepts no value of the domain just if it misses the domain. -/
theorem accepts_none_iff (hd : d.minimum ≤ d.maximum) (h : t.WellFormed d) :
    (∀ v ∈ d, t.accepts v = false) ↔ t.Misses d := by
  constructor
  · intro hnone
    have hbase := base_eq_wildcard h hnone
    cases t with
    | plain b =>
      -- a bare star accepts all values, and the domain has one
      have hb : b = .wildcard := hbase
      have haccepts : (Term.plain .wildcard).accepts d.minimum = true := rfl
      rw [← hb, hnone d.minimum ⟨Int.le_refl _, hd⟩] at haccepts
      cases haccepts
    | step b interval =>
      have hb : b = .wildcard := hbase
      refine ⟨interval, by rw [hb], ?_⟩
      intro hmultiple
      obtain ⟨v, hv, hdvd⟩ := hmultiple
      have haccepts := accepts_step_wildcard_iff.2 hdvd
      rw [← hb, hnone v hv] at haccepts
      cases haccepts
  · intro hmisses v hv
    obtain ⟨interval, rfl, hnone⟩ := hmisses
    rw [Bool.eq_false_iff]
    intro haccepts
    exact hnone ⟨v, hv, accepts_step_wildcard_iff.1 haccepts⟩

/-- A domain that begins at one is missed by the steps over `*` that are longer than it: a shorter
interval lies in the domain itself. -/
theorem misses_iff_maximum_lt (hone : d.minimum = 1) (h : t.WellFormed d) :
    t.Misses d ↔ ∃ interval, t = .step .wildcard interval ∧ d.maximum < interval := by
  constructor
  · intro hmisses
    obtain ⟨interval, rfl, hnone⟩ := hmisses
    obtain ⟨-, hpos, -⟩ := h
    refine ⟨interval, rfl, ?_⟩
    apply Int.lt_of_not_ge
    intro hle
    have hmem : interval ∈ d := ⟨by omega, hle⟩
    exact hnone ⟨interval, hmem, Int.dvd_refl _⟩
  · intro hlong
    obtain ⟨interval, rfl, hlt⟩ := hlong
    refine ⟨interval, rfl, ?_⟩
    intro hmultiple
    obtain ⟨v, ⟨hmin, hmax⟩, hdvd⟩ := hmultiple
    have hle : interval ≤ v := Int.le_of_dvd (by omega) hdvd
    omega

end Term

/-! ## Fields -/

section field

variable {d : Domain} {text : String} {terms : List Term}

/-- A field that was read accepts no value of its domain just if each of its terms misses it. -/
theorem Domain.readField_accepts_none_iff (hd : d.minimum ≤ d.maximum)
    (h : d.readField text = .ok terms) :
    (∀ v ∈ d, anyAccepts terms v = false) ↔ ∀ t ∈ terms, t.Misses d := by
  have hwell := (Domain.wellFormed_of_readField h).2
  constructor
  · intro hnone t ht
    rw [← Term.accepts_none_iff hd (hwell t ht)]
    intro v hv
    exact Bool.eq_false_iff.2 (List.any_eq_false.1 (hnone v hv) t ht)
  · intro hall v hv
    apply List.any_eq_false.2
    intro t ht
    exact Bool.eq_false_iff.1 ((Term.accepts_none_iff hd (hwell t ht)).2 (hall t ht) v hv)

/-- In a domain that begins at one the terms have to be steps over `*` beyond its maximum. -/
theorem Domain.readField_accepts_none_iff_of_one (hone : d.minimum = 1) (hmax : 1 ≤ d.maximum)
    (h : d.readField text = .ok terms) :
    (∀ v ∈ d, anyAccepts terms v = false) ↔
      ∀ t ∈ terms, ∃ interval, t = .step .wildcard interval ∧ d.maximum < interval := by
  have hwell := (Domain.wellFormed_of_readField h).2
  rw [Domain.readField_accepts_none_iff (by omega) h]
  constructor
  · intro hall t ht
    exact (Term.misses_iff_maximum_lt hone (hwell t ht)).1 (hall t ht)
  · intro hall t ht
    exact (Term.misses_iff_maximum_lt hone (hwell t ht)).2 (hall t ht)

end field

/-- **Fields that accept nothing**: whatever the domain, a field that was read answers for every
value, and it accepts no value of the domain just if all its terms are steps over `*` of whose
interval the domain holds no multiple. Minute, hour and weekday fields always accept something, and
day and month fields do unless all their intervals are beyond the maximum. -/
theorem accepts_nothing_iff :
    (∀ (d : Domain) (text : String) (terms : List Term), d.minimum ≤ d.maximum →
      d.readField text = .ok terms →
      (∀ v : Int, testAny terms v = .ok (anyAccepts terms v)) ∧
      ((∀ v ∈ d, anyAccepts terms v = false) ↔
        ∀ t ∈ terms, ∃ interval, t = .step .wildcard interval ∧ ¬ ∃ v ∈ d, interval ∣ v)) ∧
    (∀ (n : FieldName) (text : String) (terms : List Term),
      n = .minute ∨ n = .hour ∨ n = .weekday → n.domain.readField text = .ok terms →
      ∃ v ∈ n.domain, anyAccepts terms v = true) ∧
    ∀ (n : FieldName) (text : String) (terms : List Term),
      n = .day ∨ n = .month → n.domain.readField text = .ok terms →
      ((∀ v ∈ n.domain, anyAccepts terms v = false) ↔
        ∀ t ∈ terms, ∃ interval, t = .step .wildcard interval ∧ n.domain.maximum < interval) := by
  refine ⟨?all, ?zero, ?one⟩
  case all =>
    intro d text terms hd h
    exact ⟨testAny_eq_ok (Domain.wellFormed_of_readField h).2,
      Domain.readField_accepts_none_iff hd h⟩
  case zero =>
    intro n text terms hn h
    have hzero : (0 : Int) ∈ n.domain := by
      rcases hn with rfl | rfl | rfl <;> decide
    exact Domain.exists_accepts_of_readField h hzero
  case one =>
    intro n text terms hn h
    have hone : n.domain.minimum = 1 ∧ 1 ≤ n.domain.maximum := by
      rcases hn with rfl | rfl <;> decide
    exact Domain.readField_accepts_none_iff_of_one hone.1 hone.2 h

/-- The domain from 5 to 7 lies between two multiples of 4, and no month is a multiple of 13. Steps
from weekday 7 accept that day. -/
theorem accepts_nothing_iff_between_multiples :
    (∃ (d : Domain) (terms : List Term), d = ⟨"slot", 5, 7⟩ ∧ d.minimum ≤ d.maximum ∧
      d.readField "*/4,*/9" = .ok terms ∧ (∀ v ∈ d, anyAccepts terms v = false) ∧
      ∀ t ∈ terms, ∃ interval, t = .step .wildcard interval ∧ ¬ ∃ v ∈ d, interval ∣ v) ∧
    (∃ terms : List Term, FieldName.weekday.domain.readField "7/3" = .ok terms ∧
      ∃ v ∈ FieldName.weekday.domain, anyAccepts terms v = true) ∧
    ∃ terms : List Term, FieldName.month.domain.readField "*/13" = .ok terms ∧
      (∀ v ∈ FieldName.month.domain, anyAccepts terms v = false) ∧
      ∀ t ∈ terms, ∃ interval,
        t = .step .wildcard interval ∧ FieldName.month.domain.maximum < interval := by
  refine ⟨?slots, ?weekday, ?months⟩
  case slots =>
    let d : Domain := ⟨"slot", 5, 7⟩
    have hread : d.readField "*/4,*/9" = .ok [.step .wildcard 4, .step .wildcard 9] := by rfl
    have hnone : ∀ v ∈ d, anyAccepts [.step .wildcard 4, .step .wildcard 9] v = false := by
      intro v hv
      obtain ⟨hmin, hmax⟩ := hv
      change 5 ≤ v at hmin
      change v ≤ 7 at hmax
      have hcases : v = 5 ∨ v = 6 ∨ v = 7 := by omega
      rcases hcases with rfl | rfl | rfl <;> rfl
    exact ⟨d, _, rfl, by decide, hread, hnone,
      ((accepts_nothing_iff.1 d _ _ (by decide) hread).2.1 hnone)⟩
  case weekday =>
    have hread : FieldName.weekday.domain.readField "7/3" = .ok [.step (.single 7) 3] := by rfl
    exact ⟨_, hread, accepts_nothing_iff.2.1 .weekday _ _ (by decide) hread⟩
  case months =>
    have hread : FieldName.month.domain.readField "*/13" = .ok [.step .wildcard 13] := by rfl
    have hlong : ∀ t ∈ [Term.step .wildcard 13], ∃ interval,
        t = .step .wildcard interval ∧ FieldName.month.domain.maximum < interval := by
      intro t ht
      exact ⟨13, List.mem_singleton.1 ht, by decide⟩
    exact ⟨_, hread, (accepts_nothing_iff.2.2 .month _ _ (by decide) hread).2 hlong, hlong⟩

end Cron
