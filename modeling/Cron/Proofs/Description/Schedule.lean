import Cron.Proofs.Description.Unique
import Cron.Proofs.Search.Agreement

/-! # Expressions that are described alike

A sentence tells the terms of an expression up to the number of Sunday. That number is part of the
meaning only where other days follow it: counted from 0 the week comes after Sunday, counted from 7
nothing does. So of two weekday terms that are described alike, either both are the same, or both
accept Sunday and one of them accepts no other day.

Main statements: `Term.eq_or_sunday`, `Search.acceptsWeekday_eq_of_sentence_eq`, and
`Search.fires_iff_of_sentence_eq`, that one sentence is one schedule but for such terms.
-/

namespace Cron

open Calendar

/-! ## Sundays -/

theorem FieldName.mem_weekday_iff {v : Int} : v ∈ FieldName.weekday.domain ↔ 0 ≤ v ∧ v ≤ 7 :=
  Iff.rfl

/-- Steps over the base reach no day but Sunday. -/
def Base.OnlySunday (b : Base) : Prop :=
  ∀ v : Int, 1 ≤ v → v ≤ 6 → b.distance? v = none

/-- The term accepts no day but Sunday. -/
def Term.OnlySunday (t : Term) : Prop :=
  ∀ v ∈ FieldName.weekday.domain.values, t.accepts v = true → v % 7 = 0

instance (t : Term) : Decidable t.OnlySunday :=
  inferInstanceAs (Decidable (∀ v ∈ FieldName.weekday.domain.values, _))

/-- The term accepts a weekday; Sunday has two numbers. -/
def Term.acceptsWeekday (t : Term) (weekday : Nat) : Bool :=
  t.accepts weekday || (weekday == 0 && t.accepts 7)

/-- What a base accepts is reached by steps over it. -/
theorem Base.distance?_ne_none_of_accepts {b : Base} {v : Int} (h : b.accepts v = true) :
    b.distance? v ≠ none := by
  cases b with
  | wildcard => simp [distance?]
  | single value =>
    have hv : v = value := by simpa [accepts] using h
    simp [distance?, hv]
  | range first last =>
    have hv : first ≤ v ∧ v ≤ last := by simpa [accepts] using h
    simp [distance?, hv]

theorem Term.distance?_ne_none_of_accepts {t : Term} {v : Int} (h : t.accepts v = true) :
    t.base.distance? v ≠ none := by
  cases t with
  | plain b => exact Base.distance?_ne_none_of_accepts h
  | step b interval =>
    intro hnone
    simp only [base] at hnone
    simp [accepts, hnone] at h

theorem Term.onlySunday_of_base {t : Term} (h : t.base.OnlySunday) : t.OnlySunday := by
  intro v hv haccepts
  obtain ⟨hmin, hmax⟩ := FieldName.mem_weekday_iff.1 (Domain.mem_values_iff.1 hv)
  have hreached := Term.distance?_ne_none_of_accepts haccepts
  by_contra hv
  exact hreached (h v (by omega) (by omega))

/-- A term that counts from a Sunday accepts Sunday. -/
theorem Term.acceptsWeekday_zero_of_start {t : Term} (h : t.WellFormed FieldName.weekday.domain)
    (hstart : t.base.start % 7 = 0) : t.acceptsWeekday 0 = true := by
  have haccepts := Term.accepts_start h
  have hmem : t.base.start ∈ FieldName.weekday.domain :=
    Base.start_mem (Term.base_wellFormed h) (by decide)
  obtain ⟨hmin, hmax⟩ := FieldName.mem_weekday_iff.1 hmem
  have hsunday : t.base.start = 0 ∨ t.base.start = 7 := by omega
  rcases hsunday with heq | heq
  · simp [acceptsWeekday, ← heq, haccepts]
  · simp [acceptsWeekday, ← heq, haccepts]

/-! ## Terms that are described alike -/

/-- From a Sunday to the same Sunday there is no other day. -/
theorem Base.onlySunday_range {v : Int} (h : v % 7 = 0) : (Base.range v v).OnlySunday := by
  intro w hmin hmax
  have hout : ¬(v ≤ w ∧ w ≤ v) := by omega
  simp [distance?, hout]

/-- After the Sunday that ends the week no other day follows. -/
theorem Base.onlySunday_single : (Base.single 7).OnlySunday := by
  intro w hmin hmax
  have hout : ¬7 ≤ w := by omega
  simp [distance?, hout]

theorem Base.eq_or_sunday {b b' : Base} (h : b.WellFormed FieldName.weekday.domain)
    (h' : b'.WellFormed FieldName.weekday.domain)
    (heq : b.renumber FieldName.weekday.listedAs = b'.renumber FieldName.weekday.listedAs) :
    b = b' ∨ (b.start % 7 = 0 ∧ b'.start % 7 = 0) ∧ (b.OnlySunday ∨ b'.OnlySunday) := by
  cases b with
  | wildcard =>
    cases b' with
    | wildcard => exact Or.inl rfl
    | _ => cases heq
  | single v =>
    cases b' with
    | single w =>
      have hmod : v % 7 = w % 7 := Base.single.inj heq
      obtain ⟨hmin, hmax⟩ := FieldName.mem_weekday_iff.1 h.1
      obtain ⟨hmin', hmax'⟩ := FieldName.mem_weekday_iff.1 h'.1
      have hcases : v = w ∨ (v = 7 ∧ w = 0) ∨ (v = 0 ∧ w = 7) := by omega
      rcases hcases with rfl | ⟨rfl, rfl⟩ | ⟨rfl, rfl⟩
      · exact Or.inl rfl
      · exact Or.inr ⟨⟨rfl, rfl⟩, Or.inl Base.onlySunday_single⟩
      · exact Or.inr ⟨⟨rfl, rfl⟩, Or.inr Base.onlySunday_single⟩
    | _ => cases heq
  | range first last =>
    cases b' with
    | range first' last' =>
      obtain ⟨hfirst, hlast⟩ : first % 7 = first' % 7 ∧ last % 7 = last' % 7 := Base.range.inj heq
      have hle : first ≤ last := h.2.1
      have hle' : first' ≤ last' := h'.2.1
      have hmin : 0 ≤ first := (FieldName.mem_weekday_iff.1 (FieldName.ends_mem h).1).1
      have hmax : last ≤ 7 := (FieldName.mem_weekday_iff.1 (FieldName.ends_mem h).2).2
      have hmin' : 0 ≤ first' := (FieldName.mem_weekday_iff.1 (FieldName.ends_mem h').1).1
      have hmax' : last' ≤ 7 := (FieldName.mem_weekday_iff.1 (FieldName.ends_mem h').2).2
      by_cases hsame : first = first' ∧ last = last'
      · rw [hsame.1, hsame.2]
        exact Or.inl rfl
      · -- one of the two ranges has only one number for a Sunday in it
        have hsunday : first % 7 = 0 ∧ first' % 7 = 0 := by omega
        have hone : last = first ∨ last' = first' := by omega
        refine Or.inr ⟨hsunday, ?_⟩
        rcases hone with rfl | rfl
        · exact Or.inl (Base.onlySunday_range hsunday.1)
        · exact Or.inr (Base.onlySunday_range hsunday.2)
    | _ => cases heq

/-- **Only of Sundays**: weekday terms that are equal up to the number of Sunday are the same, or
both accept Sunday and one of them no other day. -/
theorem Term.eq_or_sunday {t t' : Term} (h : t.WellFormed FieldName.weekday.domain)
    (h' : t'.WellFormed FieldName.weekday.domain)
    (heq : t.renumber FieldName.weekday.listedAs = t'.renumber FieldName.weekday.listedAs) :
    t = t' ∨ (t.acceptsWeekday 0 = true ∧ t'.acceptsWeekday 0 = true) ∧
      (t.OnlySunday ∨ t'.OnlySunday) := by
  obtain ⟨hbase, hsame⟩ : t.base.renumber FieldName.weekday.listedAs =
      t'.base.renumber FieldName.weekday.listedAs ∧ (t.base = t'.base → t = t') := by
    cases t with
    | plain b =>
      cases t' with
      | plain b' => exact ⟨Term.plain.inj heq, congrArg Term.plain⟩
      | step b' interval' => cases heq
    | step b interval =>
      cases t' with
      | plain b' => cases heq
      | step b' interval' =>
        obtain ⟨hbase, rfl⟩ := Term.step.inj heq
        exact ⟨hbase, congrArg fun b => Term.step b interval⟩
  rcases Base.eq_or_sunday (base_wellFormed h) (base_wellFormed h') hbase with heq | hsunday
  · exact Or.inl (hsame heq)
  · refine Or.inr ⟨⟨acceptsWeekday_zero_of_start h hsunday.1.1,
      acceptsWeekday_zero_of_start h' hsunday.1.2⟩, ?_⟩
    exact hsunday.2.imp onlySunday_of_base onlySunday_of_base

/-- **The terms part** on a day other than Sunday: one of them accepts it, and the other accepts no
day but Sunday. -/
def Term.PartOn (t t' : Term) (weekday : Nat) : Prop :=
  weekday ≠ 0 ∧
    (t.OnlySunday ∧ t'.accepts weekday = true ∨ t'.OnlySunday ∧ t.accepts weekday = true)

instance (t t' : Term) (weekday : Nat) : Decidable (t.PartOn t' weekday) :=
  inferInstanceAs (Decidable (_ ∧ _))

theorem Term.accepts_of_onlySunday {t : Term} (h : t.OnlySunday) {weekday : Nat} (hlt : weekday < 7)
    (hne : weekday ≠ 0) : t.accepts weekday = false := by
  by_contra haccepts
  have hmem : (weekday : Int) ∈ FieldName.weekday.domain.values := by
    rw [Domain.mem_values_iff, FieldName.mem_weekday_iff]
    omega
  have hmod := h weekday hmem (by simpa using haccepts)
  omega

/-- Terms that do not part accept the same weekdays. -/
theorem Term.acceptsWeekday_eq {t t' : Term} (h : t.WellFormed FieldName.weekday.domain)
    (h' : t'.WellFormed FieldName.weekday.domain)
    (heq : t.renumber FieldName.weekday.listedAs = t'.renumber FieldName.weekday.listedAs)
    {weekday : Nat} (hlt : weekday < 7) (hpart : ¬t.PartOn t' weekday) :
    t.acceptsWeekday weekday = t'.acceptsWeekday weekday := by
  rcases Term.eq_or_sunday h h' heq with rfl | ⟨⟨hzero, hzero'⟩, honly⟩
  · rfl
  by_cases hsunday : weekday = 0
  · rw [hsunday, hzero, hzero']
  · have hnumber : (weekday == 0) = false := beq_eq_false_iff_ne.2 hsunday
    have hpart' : ¬(t.OnlySunday ∧ t'.accepts weekday = true ∨
        t'.OnlySunday ∧ t.accepts weekday = true) := fun h => hpart ⟨hsunday, h⟩
    have hrefused : t.accepts weekday = false ∧ t'.accepts weekday = false := by
      rcases honly with honly | honly
      · have hother : ¬t'.accepts weekday = true := fun h => hpart' (Or.inl ⟨honly, h⟩)
        exact ⟨accepts_of_onlySunday honly hlt hsunday, by simpa using hother⟩
      · have hother : ¬t.accepts weekday = true := fun h => hpart' (Or.inr ⟨honly, h⟩)
        exact ⟨by simpa using hother, accepts_of_onlySunday honly hlt hsunday⟩
    simp [acceptsWeekday, hnumber, hrefused.1, hrefused.2]

/-! ## Fields -/

/-- A field accepts a weekday if some term does. -/
theorem Field.acceptsWeekday_eq_any (f : Field) (date : Date) :
    f.acceptsWeekday date = f.terms.any fun t => t.acceptsWeekday date.weekday := by
  rw [Bool.eq_iff_iff]
  simp only [acceptsWeekday, accepts, anyAccepts, Term.acceptsWeekday, Bool.or_eq_true,
    Bool.and_eq_true, List.any_eq_true]
  constructor
  · rintro (⟨t, ht, haccepts⟩ | ⟨hsunday, t, ht, haccepts⟩)
    · exact ⟨t, ht, Or.inl haccepts⟩
    · exact ⟨t, ht, Or.inr ⟨hsunday, haccepts⟩⟩
  · rintro ⟨t, ht, haccepts | ⟨hsunday, haccepts⟩⟩
    · exact Or.inl ⟨t, ht, haccepts⟩
    · exact Or.inr ⟨hsunday, t, ht, haccepts⟩

/-- By induction on the terms, which are the same but for the number of Sunday. -/
theorem any_acceptsWeekday_eq {ts ts' : List Term}
    (h : ∀ t ∈ ts, t.WellFormed FieldName.weekday.domain)
    (h' : ∀ t ∈ ts', t.WellFormed FieldName.weekday.domain)
    (heq : ts.map (Term.renumber FieldName.weekday.listedAs) =
      ts'.map (Term.renumber FieldName.weekday.listedAs))
    {weekday : Nat} (hlt : weekday < 7) (hpart : ∀ p ∈ ts.zip ts', ¬p.1.PartOn p.2 weekday) :
    (ts.any fun t => t.acceptsWeekday weekday) = ts'.any fun t => t.acceptsWeekday weekday := by
  induction ts generalizing ts' with
  | nil => rw [List.map_eq_nil_iff.1 heq.symm]
  | cons t ts ih =>
    cases ts' with
    | nil => cases heq
    | cons t' ts' =>
      rw [List.map_cons, List.map_cons, List.cons.injEq] at heq
      rw [List.forall_mem_cons] at h h'
      rw [List.zip_cons_cons, List.forall_mem_cons] at hpart
      rw [List.any_cons, List.any_cons, ih h.2 h'.2 heq.2 hpart.2,
        Term.acceptsWeekday_eq h.1 h'.1 heq.1 hlt hpart.1]

/-- A bare `*` has no number in it. -/
theorem Field.isWildcard_iff_map_eq {number : Int → Int} {f : Field} :
    f.isWildcard = true ↔ f.terms.map (Term.renumber number) = [.plain .wildcard] := by
  rw [Field.isWildcard, beq_iff_eq]
  constructor
  · intro h
    rw [h]
    rfl
  · intro h
    obtain ⟨t, hterms, ht⟩ := List.map_eq_singleton_iff.1 h
    rw [hterms]
    cases t with
    | plain b => cases b <;> simp_all [Term.renumber, Base.renumber]
    | step b interval => cases ht

/-! ## Schedules -/

namespace Search

variable {text text' : String} {e e' : Expression}

/-- Apart from weekdays a sentence tells the terms as they are. -/
theorem terms_eq_of_ne_weekday (hread : Expression.read text = .ok e)
    (hread' : Expression.read text' = .ok e') (h : e.sentence = e'.sentence) {f : FieldName}
    (hf : f ≠ .weekday) : (e.get f).terms = (e'.get f).terms := by
  have hnot : f = .weekday → ∀ t ∈ (e.get f).terms, 7 ∉ t.values := fun heq => absurd heq hf
  have hnot' : f = .weekday → ∀ t ∈ (e'.get f).terms, 7 ∉ t.values := fun heq => absurd heq hf
  rw [← Expression.map_renumber_eq_self hread hnot, ← Expression.map_renumber_eq_self hread' hnot',
    Expression.renumber_eq_of_sentence_eq hread hread' h f]

theorem accepts_eq_of_sentence_eq (hread : Expression.read text = .ok e)
    (hread' : Expression.read text' = .ok e') (h : e.sentence = e'.sentence) {f : FieldName}
    (hf : f ≠ .weekday) (v : Int) : (e.get f).accepts v = (e'.get f).accepts v := by
  rw [Field.accepts, Field.accepts, terms_eq_of_ne_weekday hread hread' h hf]

theorem isWildcard_eq_of_sentence_eq (hread : Expression.read text = .ok e)
    (hread' : Expression.read text' = .ok e') (h : e.sentence = e'.sentence) (f : FieldName) :
    (e.get f).isWildcard = (e'.get f).isWildcard := by
  rw [Bool.eq_iff_iff, Field.isWildcard_iff_map_eq, Field.isWildcard_iff_map_eq,
    Expression.renumber_eq_of_sentence_eq hread hread' h f]

/-- Weekday fields that are described alike agree on a date unless two of their terms part on it. -/
theorem acceptsWeekday_eq_of_sentence_eq (hread : Expression.read text = .ok e)
    (hread' : Expression.read text' = .ok e') (h : e.sentence = e'.sentence) {date : Date}
    (hpart : ∀ p ∈ e.weekday.terms.zip e'.weekday.terms, ¬p.1.PartOn p.2 date.weekday) :
    e.weekday.acceptsWeekday date = e'.weekday.acceptsWeekday date := by
  rw [Field.acceptsWeekday_eq_any, Field.acceptsWeekday_eq_any]
  exact any_acceptsWeekday_eq (Expression.wellFormed_of_read hread .weekday).2
    (Expression.wellFormed_of_read hread' .weekday).2
    (Expression.renumber_eq_of_sentence_eq hread hread' h .weekday) date.weekday_lt hpart

/-- All fields but those of the day accept the instant. -/
def OthersAccept (e : Expression) (x : Instant) : Prop :=
  e.month.accepts x.date.month = true ∧ e.hour.accepts x.hour = true ∧
    e.minute.accepts x.minute = true

/-- **The weekday decides**: the other fields accept the instant, and of the two fields of the day
the weekday is restricted and the day is not, or refuses. -/
def WeekdayDecides (e : Expression) (x : Instant) : Prop :=
  OthersAccept e x ∧ e.weekday.isWildcard = false ∧
    (e.day.isWildcard = true ∨ e.day.accepts x.date.day = false)

/-- An expression fires where the weekday decides and is accepted, or where the day rule is
satisfied whatever the weekday. -/
theorem judge_eq_fires_iff_weekday {x : Instant} : judge e x = .fires ↔
    (WeekdayDecides e x ∧ e.weekday.acceptsWeekday x.date = true) ∨
      (OthersAccept e x ∧
        if e.day.isWildcard then e.weekday.isWildcard = true
        else e.day.accepts x.date.day = true) := by
  rw [judge_eq_fires_iff, Expression.Fires, ← Expression.dayAccepts_eq_true_iff,
    Expression.dayAccepts, WeekdayDecides, OthersAccept]
  cases e.day.isWildcard <;> cases e.weekday.isWildcard <;> grind

/-- **One sentence, one schedule**, but for the number of Sunday: expressions that are described
alike fire at the same instants, except just where the weekday decides and the two weekday fields do
not agree. Then the day is no Sunday, and on it two weekday terms at the same place part. -/
theorem fires_iff_of_sentence_eq (hread : Expression.read text = .ok e)
    (hread' : Expression.read text' = .ok e') (h : e.sentence = e'.sentence) (x : Instant) :
    ((judge e x = .fires ↔ judge e' x = .fires) ↔
      (WeekdayDecides e x →
        e.weekday.acceptsWeekday x.date = e'.weekday.acceptsWeekday x.date)) ∧
    (e.weekday.acceptsWeekday x.date ≠ e'.weekday.acceptsWeekday x.date →
      ∃ p ∈ e.weekday.terms.zip e'.weekday.terms, p.1.PartOn p.2 x.date.weekday) := by
  have haccepts {f : FieldName} (hf : f ≠ .weekday) (v : Int) :=
    accepts_eq_of_sentence_eq hread hread' h hf v
  have hday : e.day.accepts x.date.day = e'.day.accepts x.date.day :=
    haccepts (f := .day) (by decide) _
  have hbare : e.day.isWildcard = e'.day.isWildcard :=
    isWildcard_eq_of_sentence_eq hread hread' h .day
  have hbare' : e.weekday.isWildcard = e'.weekday.isWildcard :=
    isWildcard_eq_of_sentence_eq hread hread' h .weekday
  have hothers : OthersAccept e x ↔ OthersAccept e' x := by
    have hmonth : e.month.accepts x.date.month = e'.month.accepts x.date.month :=
      haccepts (f := .month) (by decide) _
    have hhour : e.hour.accepts x.hour = e'.hour.accepts x.hour :=
      haccepts (f := .hour) (by decide) _
    have hminute : e.minute.accepts x.minute = e'.minute.accepts x.minute :=
      haccepts (f := .minute) (by decide) _
    rw [OthersAccept, OthersAccept, hmonth, hhour, hminute]
  have hdecides : WeekdayDecides e x ↔ WeekdayDecides e' x := by
    rw [WeekdayDecides, WeekdayDecides, hothers, hbare, hbare', hday]
  constructor
  · rw [judge_eq_fires_iff_weekday, judge_eq_fires_iff_weekday, ← hothers, ← hdecides, ← hbare,
      ← hbare', ← hday, WeekdayDecides]
    cases e.day.isWildcard <;> cases e.weekday.acceptsWeekday x.date <;>
      cases e'.weekday.acceptsWeekday x.date <;> grind
  · intro hdiffer
    by_contra hnone
    simp only [not_exists, not_and] at hnone
    exact hdiffer (acceptsWeekday_eq_of_sentence_eq hread hread' h hnone)

/-- Two terms part on a Monday here and there: beside `1-6` nothing comes of it, since that term
accepts the day in both expressions, and without it one of them accepts the day alone. -/
theorem fires_iff_of_sentence_eq_monday : ∃ (e e' f f' : Expression) (x : Instant),
    Expression.read "0 0 * * 0-0,1-6" = .ok e ∧ Expression.read "0 0 * * 0-7,1-6" = .ok e' ∧
    Expression.read "0 0 * * 0-0" = .ok f ∧ Expression.read "0 0 * * 0-7" = .ok f' ∧
    e.sentence = e'.sentence ∧ f.sentence = f'.sentence ∧
    Instant.ofString? "2024-01-01T00:00:00" = some x ∧
    e.weekday.acceptsWeekday x.date = e'.weekday.acceptsWeekday x.date ∧
    (judge e x = .fires ↔ judge e' x = .fires) ∧
    f.weekday.acceptsWeekday x.date ≠ f'.weekday.acceptsWeekday x.date ∧
    ∃ p ∈ f.weekday.terms.zip f'.weekday.terms, p.1.PartOn p.2 x.date.weekday := by
  obtain ⟨e, hread⟩ : ∃ e, Expression.read "0 0 * * 0-0,1-6" = .ok e := ⟨_, rfl⟩
  obtain ⟨e', hread'⟩ : ∃ e, Expression.read "0 0 * * 0-7,1-6" = .ok e := ⟨_, rfl⟩
  obtain ⟨f, hfread⟩ : ∃ f, Expression.read "0 0 * * 0-0" = .ok f := ⟨_, rfl⟩
  obtain ⟨f', hfread'⟩ : ∃ f, Expression.read "0 0 * * 0-7" = .ok f := ⟨_, rfl⟩
  obtain ⟨x, hx⟩ : ∃ x, Instant.ofString? "2024-01-01T00:00:00" = some x := ⟨_, rfl⟩
  have hsentence : e.sentence = e'.sentence := by
    cases hread
    cases hread'
    decide
  have hsentence' : f.sentence = f'.sentence := by
    cases hfread
    cases hfread'
    decide
  have hagree : e.weekday.acceptsWeekday x.date = e'.weekday.acceptsWeekday x.date := by
    cases hread
    cases hread'
    cases hx
    decide +kernel
  have hdiffer : f.weekday.acceptsWeekday x.date ≠ f'.weekday.acceptsWeekday x.date := by
    cases hfread
    cases hfread'
    cases hx
    decide +kernel
  exact ⟨e, e', f, f', x, hread, hread', hfread, hfread', hsentence, hsentence', hx, hagree,
    (fires_iff_of_sentence_eq hread hread' hsentence x).1.2 fun _ => hagree, hdiffer,
    (fires_iff_of_sentence_eq hfread hfread' hsentence' x).2 hdiffer⟩

/-- From Sunday to Sunday is one day or the whole week: `0-0` and `0-7` are described alike, and
only the second of them fires on a Monday. -/
theorem sentence_eq_and_fires_apart : ∃ (e e' : Expression) (x : Instant),
    Expression.read "0 0 * * 0-0" = .ok e ∧ Expression.read "0 0 * * 0-7" = .ok e' ∧
    Instant.ofString? "2024-01-01T00:00:00" = some x ∧
    e.sentence = "At 00:00, from Sun to Sun" ∧ e'.sentence = "At 00:00, from Sun to Sun" ∧
    judge e x = .wrongDay ∧ judge e' x = .fires := by
  refine ⟨_, _, _, rfl, rfl, rfl, ?_⟩
  decide +kernel

end Search

end Cron
