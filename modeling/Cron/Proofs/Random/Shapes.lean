import Cron.Proofs.Expression.Listed
import Cron.Proofs.Search.Firing
import Cron.Random.Shape

/-! # What shapes lead to

A random expression names one time of day or several, and leaves either all days open or all but one
of each month or of each week. What its text writes is said here by terms: each shape leads to the
text of some terms of this kind, whatever is chosen. So the text can be read, and it fires at a
certain time of day on the days that are open.

Main statements: `Shape.exists_plan_of_outcome`, `Plan.Sound.read_text` and `Plan.Sound.fires`.
-/

namespace Cron.Random

open Calendar Text

/-! ## Terms that offer a value -/

/-- The term can stand in the field, and accepts a value of it. -/
structure Offers (f : FieldName) (t : Term) (value : Nat) : Prop where
  wellFormed : t.WellFormed f.domain
  mem : (value : Int) ∈ f.domain
  accepts : t.accepts value = true

variable {f : FieldName}

theorem offers_wildcard {value : Nat} (h : (value : Int) ∈ f.domain) :
    Offers f (.plain .wildcard) value where
  wellFormed := trivial
  mem := h
  accepts := rfl

theorem offers_single {value : Nat} (h : (value : Int) ∈ f.domain) :
    Offers f (.plain (.single value)) value where
  wellFormed := Expression.wellFormed_single h
  mem := h
  accepts := by simp [Term.accepts, Base.accepts]

theorem offers_range {first last : Nat} (h : (first : Int) ∈ f.domain) (h' : (last : Int) ∈ f.domain)
    (hle : first ≤ last) : Offers f (.plain (.range first last)) first where
  wellFormed :=
    ⟨h.1, Int.ofNat_le.2 hle, h'.2, Int.natCast_nonneg first, Expression.natAbs_lt_limit_of_mem h'⟩
  mem := h
  accepts := by simp [Term.accepts, Base.accepts, hle]

/-- Every so many-th value from zero on. -/
theorem offers_step {interval : Nat} (hzero : ((0 : Nat) : Int) ∈ f.domain) (hpos : 0 < interval)
    (h : (interval : Int) ∈ f.domain) : Offers f (.step .wildcard interval) 0 where
  wellFormed := ⟨trivial, Int.natCast_pos.2 hpos, Expression.natAbs_lt_limit_of_mem h⟩
  mem := hzero
  accepts := by simp [Term.accepts, Base.distance?]

theorem minute_mem {n : Nat} (h : n ≤ 59) : (n : Int) ∈ FieldName.minute.domain :=
  ⟨Int.natCast_nonneg n, Int.ofNat_le.2 h⟩

theorem hour_mem {n : Nat} (h : n ≤ 23) : (n : Int) ∈ FieldName.hour.domain :=
  ⟨Int.natCast_nonneg n, Int.ofNat_le.2 h⟩

/-! ## Plans -/

/-- The days on which a random expression fires. -/
inductive Days where
  /-- Every day. -/
  | all
  /-- One day of each month. -/
  | ofMonth (day : Nat)
  /-- One weekday. -/
  | ofWeek (weekday : Nat)

namespace Days

/-- The term for the day of the month. -/
@[simp] def dayTerm : Days → Term
  | ofMonth day => .plain (.single day)
  | _ => .plain .wildcard

/-- The term for the weekday. -/
@[simp] def weekdayTerm : Days → Term
  | ofWeek weekday => .plain (.single weekday)
  | _ => .plain .wildcard

/-- The date is one of the days. -/
def Holds (date : Date) : Days → Prop
  | all => True
  | ofMonth day => date.day = day
  | ofWeek weekday => date.weekday = weekday

/-- The days never fail to come: a day that every month has, or a weekday. -/
def Recur : Days → Prop
  | all => True
  | ofMonth day => 1 ≤ day ∧ day ≤ 28
  | ofWeek weekday => weekday ≤ 6

variable {days : Days} {date : Date}

/-- On its days both terms accept the date. -/
theorem accepts_dayTerm (h : days.Holds date) : days.dayTerm.accepts date.day = true := by
  cases days with
  | ofMonth day =>
    have hday : date.day = day := h
    simp [dayTerm, Term.accepts, Base.accepts, hday]
  | _ => rfl

theorem accepts_weekdayTerm (h : days.Holds date) :
    days.weekdayTerm.accepts date.weekday = true := by
  cases days with
  | ofWeek weekday =>
    have hweekday : date.weekday = weekday := h
    simp [weekdayTerm, Term.accepts, Base.accepts, hweekday]
  | _ => rfl

theorem wellFormed_dayTerm (h : days.Recur) : days.dayTerm.WellFormed FieldName.day.domain := by
  cases days with
  | ofMonth day =>
    obtain ⟨hmin, hmax⟩ := h
    exact Expression.wellFormed_single ⟨Int.ofNat_le.2 hmin, Int.ofNat_le.2 (by omega : day ≤ 31)⟩
  | _ => trivial

theorem wellFormed_weekdayTerm (h : days.Recur) :
    days.weekdayTerm.WellFormed FieldName.weekday.domain := by
  cases days with
  | ofWeek weekday =>
    have hmax : weekday ≤ 6 := h
    exact Expression.wellFormed_single
      ⟨Int.natCast_nonneg weekday, Int.ofNat_le.2 (by omega : weekday ≤ 7)⟩
  | _ => trivial

end Days

/-- **A plan** of a random expression: its terms for minute and hour, its days, and a time of day. -/
structure Plan where
  minuteTerm : Term
  hourTerm : Term
  days : Days
  minute : Nat
  hour : Nat

namespace Plan

/-- The terms of a plan, by field. -/
def terms (p : Plan) : Fields (List Term) :=
  ⟨[p.minuteTerm], [p.hourTerm], [p.days.dayTerm], [.plain .wildcard], [p.days.weekdayTerm]⟩

/-- The text of a plan. -/
def text (p : Plan) : String :=
  renderFields p.terms

/-- The plan can be carried out. -/
structure Sound (p : Plan) : Prop where
  minute : Offers .minute p.minuteTerm p.minute
  hour : Offers .hour p.hourTerm p.hour
  recur : p.days.Recur

theorem toList_text (p : Plan) :
    p.text.toList = p.minuteTerm.render ++ ' ' :: (p.hourTerm.render ++ ' ' ::
      (p.days.dayTerm.render ++ ' ' :: '*' :: ' ' :: p.days.weekdayTerm.render)) := by
  simp [text, renderFields, renderTerms, terms, Fields.toList, Term.render, Base.render]

/-- What a plan writes is read as its terms. -/
theorem Sound.read_text {p : Plan} (h : p.Sound) :
    Expression.read p.text = .ok (Expression.ofTerms p.terms) := by
  refine Expression.read_renderFields fun n => ⟨by cases n <;> exact List.cons_ne_nil _ _, ?_⟩
  cases n with
  | minute => exact List.forall_mem_singleton.2 h.minute.wellFormed
  | hour => exact List.forall_mem_singleton.2 h.hour.wellFormed
  | day => exact List.forall_mem_singleton.2 (Days.wellFormed_dayTerm h.recur)
  | month => exact List.forall_mem_singleton.2 trivial
  | weekday => exact List.forall_mem_singleton.2 (Days.wellFormed_weekdayTerm h.recur)

theorem anyAccepts_singleton {t : Term} {v : Int} (h : t.accepts v = true) :
    anyAccepts [t] v = true := by
  simp [anyAccepts, h]

/-- The day rule of a plan passes its days: one of the two fields is bare, or both are. -/
theorem dayRule (p : Plan) {date : Date} (h : p.days.Holds date) :
    (Expression.ofTerms p.terms).DayRule date := by
  have hday := anyAccepts_singleton (Days.accepts_dayTerm h)
  have hweekday := anyAccepts_singleton (Days.accepts_weekdayTerm h)
  by_cases hbare : (Expression.ofTerms p.terms).day.isWildcard
  · exact Expression.dayRule_of_fitsWeekday (Or.inl hbare) (Or.inl hweekday)
  · exact Expression.dayRule_of_accepts hbare hday

/-- **A plan is carried out**: on each of its days it fires at its time. -/
theorem Sound.fires {p : Plan} (h : p.Sound) {x : Instant} (hdate : p.days.Holds x.date)
    (hhour : x.hour = p.hour) (hminute : x.minute = p.minute) :
    (Expression.ofTerms p.terms).Fires x := by
  refine ⟨anyAccepts_singleton rfl, p.dayRule hdate, ?_, ?_⟩
  · rw [hhour]
    exact anyAccepts_singleton h.hour.accepts
  · rw [hminute]
    exact anyAccepts_singleton h.minute.accepts

end Plan

/-! ## Outcomes -/

@[simp] theorem render_wildcard : (Term.plain .wildcard).render = ['*'] :=
  rfl

@[simp] theorem render_zero : (Term.plain (.single 0)).render = ['0'] :=
  rfl

@[simp] theorem render_single (n : Nat) : (Term.plain (.single n)).render = n.repr.toList := by
  rw [Nat.toList_repr]
  rfl

@[simp] theorem render_range (first last : Nat) :
    (Term.plain (.range first last)).render = first.repr.toList ++ '-' :: last.repr.toList := by
  rw [Nat.toList_repr, Nat.toList_repr]
  rfl

@[simp] theorem render_step (interval : Nat) :
    (Term.step .wildcard interval).render = '*' :: '/' :: interval.repr.toList := by
  rw [Nat.toList_repr]
  rfl

namespace Shape

/-- The minute of the shapes that fire on the hour. -/
theorem offers_onTheHour : Offers .minute (.plain (.single 0)) 0 :=
  offers_single (minute_mem (by decide))

/-- **Each shape makes plans**: whatever is chosen, the text is that of a plan that can be carried
out. -/
theorem exists_plan_of_outcome {s : Shape} {text : String} (h : s.expression.Outcome text) :
    ∃ p : Plan, p.Sound ∧ p.text = text := by
  cases s with
  | exactTime =>
    obtain ⟨minute, hminute, h⟩ := Choice.outcome_bind_iff.1 h
    obtain ⟨hour, hhour, h⟩ := Choice.outcome_bind_iff.1 h
    rw [Choice.outcome_between_iff (by decide)] at hminute hhour
    refine ⟨⟨.plain (.single minute), .plain (.single hour), .all, minute, hour⟩,
      ⟨offers_single (minute_mem hminute.2), offers_single (hour_mem hhour.2), trivial⟩, ?_⟩
    rw [Choice.outcome_done_iff.1 h, ← String.toList_inj, Plan.toList_text]
    simp
  | hourRange =>
    obtain ⟨first, hfirst, h⟩ := Choice.outcome_bind_iff.1 h
    rw [Choice.outcome_between_iff (by decide)] at hfirst
    obtain ⟨last, hlast, h⟩ := Choice.outcome_bind_iff.1 h
    rw [Choice.outcome_between_iff (by omega)] at hlast
    have hhour : first ≤ 23 := by omega
    refine ⟨⟨.plain (.single 0), .plain (.range first last), .all, 0, first⟩,
      ⟨offers_onTheHour, offers_range (hour_mem hhour) (hour_mem hlast.2) hlast.1, trivial⟩, ?_⟩
    rw [Choice.outcome_done_iff.1 h, ← String.toList_inj, Plan.toList_text]
    simp
  | monthly =>
    obtain ⟨hour, hhour, h⟩ := Choice.outcome_bind_iff.1 h
    obtain ⟨day, hday, h⟩ := Choice.outcome_bind_iff.1 h
    rw [Choice.outcome_between_iff (by decide)] at hhour hday
    refine ⟨⟨.plain (.single 0), .plain (.single hour), .ofMonth day, 0, hour⟩,
      ⟨offers_onTheHour, offers_single (hour_mem hhour.2), hday⟩, ?_⟩
    rw [Choice.outcome_done_iff.1 h, ← String.toList_inj, Plan.toList_text]
    simp
  | stepHours =>
    obtain ⟨interval, hinterval, h⟩ := Choice.outcome_bind_iff.1 h
    rw [Choice.outcome_oneOf_iff] at hinterval
    have hrange : ∀ interval ∈ [1, 2, 3, 6, 12], 0 < interval ∧ interval ≤ 23 := by decide
    obtain ⟨hpos, hmax⟩ := hrange interval hinterval
    refine ⟨⟨.plain (.single 0), .step .wildcard interval, .all, 0, 0⟩,
      ⟨offers_onTheHour, offers_step (hour_mem (by decide)) hpos (hour_mem hmax), trivial⟩, ?_⟩
    rw [Choice.outcome_done_iff.1 h, ← String.toList_inj, Plan.toList_text]
    simp
  | stepMinutes =>
    obtain ⟨interval, hinterval, h⟩ := Choice.outcome_bind_iff.1 h
    rw [Choice.outcome_oneOf_iff] at hinterval
    have hrange : ∀ interval ∈ [5, 10, 15, 30], 0 < interval ∧ interval ≤ 59 := by decide
    obtain ⟨hpos, hmax⟩ := hrange interval hinterval
    refine ⟨⟨.step .wildcard interval, .plain .wildcard, .all, 0, 0⟩,
      ⟨offers_step (minute_mem (by decide)) hpos (minute_mem hmax),
        offers_wildcard (hour_mem (Nat.zero_le 23)), trivial⟩, ?_⟩
    rw [Choice.outcome_done_iff.1 h, ← String.toList_inj, Plan.toList_text]
    simp
  | weekly =>
    obtain ⟨hour, hhour, h⟩ := Choice.outcome_bind_iff.1 h
    obtain ⟨weekday, hweekday, h⟩ := Choice.outcome_bind_iff.1 h
    rw [Choice.outcome_between_iff (by decide)] at hhour hweekday
    refine ⟨⟨.plain (.single 0), .plain (.single hour), .ofWeek weekday, 0, hour⟩,
      ⟨offers_onTheHour, offers_single (hour_mem hhour.2), hweekday.2⟩, ?_⟩
    rw [Choice.outcome_done_iff.1 h, ← String.toList_inj, Plan.toList_text]
    simp

end Shape

end Cron.Random
