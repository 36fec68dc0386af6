import Cron.Proofs.Expression.Listed
import Cron.Proofs.Search.Soundness

/-! # Searches see accepted values only

A search asks an expression for verdicts and for nothing else, and a verdict asks the fields which
values of the clock and the calendar they accept, and whether those of the day rule are bare. So
expressions that agree in this much are searched alike, step by step, whatever the reference and the
bounds. Each agrees with its listed form, which is therefore all that matters of it.

Main statements: `judge_eq_of_agrees`, `outcome_eq_of_judge_eq` and `agrees_listed`.
-/

namespace Cron.Search

open Calendar

/-! ## Readings and domains -/

theorem month_mem_domain (date : Date) : (date.month : Int) ∈ FieldName.month.domain := by
  have hmin := date.one_le_month
  have hmax := date.month_le
  simp only [Domain.mem_iff, FieldName.domain]
  omega

theorem day_mem_domain (date : Date) : (date.day : Int) ∈ FieldName.day.domain := by
  have hmin := date.one_le_day
  have hmax : date.day ≤ 31 := Nat.le_trans date.day_le (daysInMonth_le _ _)
  simp only [Domain.mem_iff, FieldName.domain]
  omega

theorem hour_mem_domain (x : Instant) : (x.hour : Int) ∈ FieldName.hour.domain := by
  have hmax := x.hour_lt
  simp only [Domain.mem_iff, FieldName.domain]
  omega

theorem minute_mem_domain (x : Instant) : (x.minute : Int) ∈ FieldName.minute.domain := by
  have hmax := x.minute_lt
  simp only [Domain.mem_iff, FieldName.domain]
  omega

/-! ## Agreement -/

/-- **Agreement**: the fields of the two expressions accept the same values of their domains, fit
the same weekdays, and are bare together in the day rule. -/
structure Agrees (e e' : Expression) : Prop where
  accepts : ∀ n : FieldName, n ≠ .weekday → ∀ v ∈ n.domain,
    (e.get n).accepts v = (e'.get n).accepts v
  acceptsWeekday : ∀ date : Date, e.weekday.acceptsWeekday date = e'.weekday.acceptsWeekday date
  isWildcard : ∀ n : FieldName, n = .day ∨ n = .weekday →
    (e.get n).isWildcard = (e'.get n).isWildcard

/-- Each expression agrees with its listed form. -/
theorem agrees_listed (e : Expression) : Agrees e.listed e where
  accepts := by
    intro n hn v hv
    rw [Expression.get_listed]
    exact Field.accepts_listed hn hv
  acceptsWeekday := e.acceptsWeekday_listed
  isWildcard := fun _ hn => e.isWildcard_listed hn

variable {e e' : Expression}

theorem dayAccepts_eq_of_agrees (h : Agrees e e') (date : Date) :
    e.dayAccepts date = e'.dayAccepts date := by
  have hday : e.day.accepts date.day = e'.day.accepts date.day :=
    h.accepts .day (by decide) _ (day_mem_domain date)
  have hwild : e.day.isWildcard = e'.day.isWildcard := h.isWildcard .day (Or.inl rfl)
  have hwild' : e.weekday.isWildcard = e'.weekday.isWildcard := h.isWildcard .weekday (Or.inr rfl)
  simp only [Expression.dayAccepts, hday, hwild, hwild', h.acceptsWeekday date]

/-- Expressions that agree get the same verdicts. -/
theorem judge_eq_of_agrees (h : Agrees e e') (x : Instant) : judge e x = judge e' x := by
  have hmonth : e.month.accepts x.date.month = e'.month.accepts x.date.month :=
    h.accepts .month (by decide) _ (month_mem_domain x.date)
  have hhour : e.hour.accepts x.hour = e'.hour.accepts x.hour :=
    h.accepts .hour (by decide) _ (hour_mem_domain x)
  have hminute : e.minute.accepts x.minute = e'.minute.accepts x.minute :=
    h.accepts .minute (by decide) _ (minute_mem_domain x)
  simp only [judge, hmonth, dayAccepts_eq_of_agrees h, hhour, hminute]

/-! ## Runs -/

section run

variable (h : ∀ x : Instant, judge e x = judge e' x)

include h

theorem step_eq_of_judge_eq (c : Cursor) : c.step e = c.step e' := by
  simp only [Cursor.step, h]

/-- By induction on the steps: both runs get the same verdicts, so they stay together. -/
theorem run_eq_of_judge_eq (n : Nat) (c : Cursor) : run e n c = run e' n c := by
  induction n generalizing c with
  | zero => rfl
  | succ n ih => simp only [run, step_eq_of_judge_eq h, ih]

theorem outcome_eq_of_judge_eq (settings : Settings) (r : Instant) :
    outcome e settings r = outcome e' settings r := by
  simp only [outcome, run_eq_of_judge_eq h]

theorem next?_eq_of_judge_eq (settings : Settings) (r : Instant) :
    next? e settings r = next? e' settings r := by
  rw [next?, next?, outcome_eq_of_judge_eq h]

end run

/-! ## The listed form -/

theorem judge_listed (e : Expression) (x : Instant) : judge e.listed x = judge e x :=
  judge_eq_of_agrees (agrees_listed e) x

/-- A field with zero in its domain accepts something, so only days and months have to be asked. -/
theorem exists_accepts_or_isOpen {text : String} (hread : Expression.read text = .ok e)
    (hmonth : ∃ v ∈ FieldName.month.domain, e.month.accepts v = true)
    (hday : e.day.isWildcard = true ∨ ∃ v ∈ FieldName.day.domain, e.day.accepts v = true)
    (n : FieldName) :
    (e.get n).isOpen n = true ∨ ∃ v ∈ n.domain, (e.get n).accepts v = true := by
  cases n with
  | minute => exact Or.inr (Expression.exists_accepts_of_read hread (by decide))
  | hour => exact Or.inr (Expression.exists_accepts_of_read hread (by decide))
  | day => exact hday
  | month => exact Or.inr hmonth
  | weekday => exact Or.inr (Expression.exists_accepts_of_read hread (by decide))

/-- **A schedule is its values**: where the month field accepts a month, and the day field a day
unless it is a bare `*`, the listed form of an expression that was read can be read as well, gets
the same verdict on every instant, and is searched with the same answer from every reference and in
all bounds. So expressions with one listed form are one schedule. -/
theorem next?_listed {text : String} (hread : Expression.read text = .ok e)
    (hmonth : ∃ v ∈ FieldName.month.domain, e.month.accepts v = true)
    (hday : e.day.isWildcard = true ∨ ∃ v ∈ FieldName.day.domain, e.day.accepts v = true) :
    Expression.read e.listed.text = .ok e.listed ∧
    (∀ x : Instant, judge e.listed x = judge e x) ∧
    (∀ (settings : Settings) (r : Instant), next? e.listed settings r = next? e settings r) ∧
    ∀ e' : Expression, e'.listed = e.listed → (∀ x : Instant, judge e' x = judge e x) ∧
      ∀ (settings : Settings) (r : Instant), next? e' settings r = next? e settings r := by
  refine ⟨Expression.read_listed (exists_accepts_or_isOpen hread hmonth hday), judge_listed e,
    next?_eq_of_judge_eq (judge_listed e), ?_⟩
  intro e' hlisted
  have hjudge (x : Instant) : judge e' x = judge e x := by
    rw [← judge_listed e', hlisted, judge_listed]
  exact ⟨hjudge, next?_eq_of_judge_eq hjudge⟩

/-- The expression `07,5-6,*/30 *,* 31,1/15 */5 5-7`: values out of order and met twice, a doubled
star, and a range across Sunday. -/
def loose : Expression :=
  ⟨⟨"07,5-6,*/30", [.plain (.single 7), .plain (.range 5 6), .step .wildcard 30]⟩,
    ⟨"*,*", [.plain .wildcard, .plain .wildcard]⟩,
    ⟨"31,1/15", [.plain (.single 31), .step (.single 1) 15]⟩,
    ⟨"*/5", [.step .wildcard 5]⟩, ⟨"5-7", [.plain (.range 5 7)]⟩⟩

/-- The same schedule in other terms: `0,30,5-7 0-23 1-31/15 5,10 6,0,5,0`. -/
def respelled : Expression :=
  ⟨⟨"0,30,5-7", [.plain (.single 0), .plain (.single 30), .plain (.range 5 7)]⟩,
    ⟨"0-23", [.plain (.range 0 23)]⟩, ⟨"1-31/15", [.step (.range 1 31) 15]⟩,
    ⟨"5,10", [.plain (.single 5), .plain (.single 10)]⟩,
    ⟨"6,0,5,0", [.plain (.single 6), .plain (.single 0), .plain (.single 5), .plain (.single 0)]⟩⟩

theorem read_loose : Expression.read "07,5-6,*/30 *,* 31,1/15 */5 5-7" = .ok loose := by rfl

/-- Both have one listed form, which can be read, and all three are searched alike. -/
theorem next?_listed_loose :
    Expression.read "07,5-6,*/30 *,* 31,1/15 */5 5-7" = .ok loose ∧
    Expression.read "0,30,5-7 0-23 1-31/15 5,10 6,0,5,0" = .ok respelled ∧
    (∃ v ∈ FieldName.month.domain, loose.month.accepts v = true) ∧
    (∃ v ∈ FieldName.day.domain, loose.day.accepts v = true) ∧
    loose.listed.text =
      "0,5,6,7,30 0,1,2,3,4,5,6,7,8,9,10,11,12,13,14,15,16,17,18,19,20,21,22,23 " ++
      "1,16,31 5,10 0,5,6" ∧
    respelled.listed = loose.listed ∧
    Expression.read loose.listed.text = .ok loose.listed ∧
    (∀ x : Instant, judge loose.listed x = judge loose x) ∧
    (∀ (settings : Settings) (r : Instant),
      next? loose.listed settings r = next? loose settings r) ∧
    (∀ x : Instant, judge respelled x = judge loose x) ∧
    ∀ (settings : Settings) (r : Instant), next? respelled settings r = next? loose settings r := by
  have hmonth : ∃ v ∈ FieldName.month.domain, loose.month.accepts v = true :=
    ⟨5, by decide, by decide⟩
  have hday : ∃ v ∈ FieldName.day.domain, loose.day.accepts v = true := ⟨31, by decide, by decide⟩
  have hsame : respelled.listed = loose.listed := by decide +kernel
  obtain ⟨hlisted, hjudge, hnext, hothers⟩ := next?_listed read_loose hmonth (Or.inr hday)
  obtain ⟨hjudge', hnext'⟩ := hothers respelled hsame
  exact ⟨read_loose, rfl, hmonth, hday, by decide +kernel, hsame, hlisted, hjudge, hnext, hjudge',
    hnext'⟩

end Cron.Search
