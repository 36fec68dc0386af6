import Cron.Proofs.Search.Soundness
import Cron.Proofs.Term.WellFormed

/-! # Searches can always be carried out

A search takes remainders by the intervals of steps, and it moves on by the calendar, which ends.
Here both are done with care: a remainder by zero breaks the search off, and so does an error of the
calendar that is not expected where it occurs. The end of the calendar is expected of every move, but
before the first instant only as the end of its last day. No search for an expression that was read
is broken off: its intervals are positive, and the first minute is missing only after the last day.

Main statements: `tryJudge_eq_ok` and `tryOutcome_eq_ok`.
-/

namespace Cron

open Calendar

namespace Search

/-! ## Terms and fields -/

/-- Why a search is broken off. -/
inductive SearchError where
  /-- A step was to be counted in intervals of zero. -/
  | zeroInterval
  /-- The calendar made an error that is not expected there. -/
  | unexpected (error : CalendarError)
  deriving DecidableEq

/-- The field accepts the value. -/
def tryAccepts (f : Field) (v : Int) : Except SearchError Bool :=
  (testAny f.terms v).mapError fun _ => .zeroInterval

/-- The weekday field accepts the weekday of a date. -/
def tryWeekday (f : Field) (date : Date) : Except SearchError Bool := do
  if ← tryAccepts f date.weekday then return true
  else if date.weekday = 0 then tryAccepts f 7
  else return false

/-- The date passes the day rule. -/
def tryDate (e : Expression) (date : Date) : Except SearchError Bool :=
  match e.day.isWildcard, e.weekday.isWildcard with
  | true, true => .ok true
  | true, false => tryWeekday e.weekday date
  | false, true => tryAccepts e.day date.day
  | false, false => do
    if ← tryAccepts e.day date.day then return true else tryWeekday e.weekday date

/-- The verdict on an instant. -/
def tryJudge (e : Expression) (x : Instant) : Except SearchError Verdict := do
  if !(← tryAccepts e.month x.date.month) then return .wrongMonth
  else if !(← tryDate e x.date) then return .wrongDay
  else if !(← tryAccepts e.hour x.hour) then return .wrongHour
  else if !(← tryAccepts e.minute x.minute) then return .wrongMinute
  else return .fires

/-- Step the cursor at most `steps` times. -/
def tryRun (e : Expression) : (steps : Nat) → Cursor → Except SearchError Outcome
  | 0, cursor => .ok (.outOfSteps cursor)
  | steps + 1, cursor =>
    if cursor.isOut then .ok (.leftLastYear cursor)
    else
      match tryJudge e cursor.instant with
      | .error err => .error err
      | .ok .fires => .ok (.found cursor.instant)
      | .ok verdict =>
        match verdict.resume cursor.instant with
        | .ok x => tryRun e steps (cursor.moveTo x)
        | .error _ => .ok .calendarEnd

/-- The outcome of a search after a reference. -/
def tryOutcome (e : Expression) (settings : Settings) (reference : Instant) :
    Except SearchError Outcome :=
  match Cursor.startAfter reference settings.horizonYears with
  | .ok cursor => tryRun e settings.maxSteps.toNat cursor
  | .error .dateOutOfRange => .ok .calendarEnd
  | .error err => .error (.unexpected err)

variable {text : String} {e : Expression}

theorem tryAccepts_eq_ok (hread : Expression.read text = .ok e) (n : FieldName) (v : Int) :
    tryAccepts (e.get n) v = .ok ((e.get n).accepts v) := by
  rw [tryAccepts, testAny_eq_ok (Expression.wellFormed_of_read hread n).2]
  rfl

theorem tryWeekday_eq_ok (hread : Expression.read text = .ok e) (date : Date) :
    tryWeekday e.weekday date = .ok (e.weekday.acceptsWeekday date) := by
  have haccepts (v : Int) : tryAccepts e.weekday v = .ok (e.weekday.accepts v) :=
    tryAccepts_eq_ok hread .weekday v
  simp only [tryWeekday, haccepts, Field.acceptsWeekday, bind, Except.bind, pure, Except.pure]
  cases e.weekday.accepts date.weekday with
  | true => rfl
  | false => by_cases hsunday : date.weekday = 0 <;> simp [hsunday]

theorem tryDate_eq_ok (hread : Expression.read text = .ok e) (date : Date) :
    tryDate e date = .ok (e.dayAccepts date) := by
  have hday : tryAccepts e.day date.day = .ok (e.day.accepts date.day) :=
    tryAccepts_eq_ok hread .day _
  simp only [tryDate, Expression.dayAccepts, hday, tryWeekday_eq_ok hread]
  cases e.day.isWildcard with
  | true => cases e.weekday.isWildcard <;> rfl
  | false =>
    cases e.weekday.isWildcard with
    | true => rfl
    | false => cases e.day.accepts date.day <;> rfl

/-- **A verdict on each instant**: no interval of an expression that was read is zero. -/
theorem tryJudge_eq_ok (hread : Expression.read text = .ok e) (x : Instant) :
    tryJudge e x = .ok (judge e x) := by
  have hmonth : tryAccepts e.month x.date.month = .ok (e.month.accepts x.date.month) :=
    tryAccepts_eq_ok hread .month _
  have hhour : tryAccepts e.hour x.hour = .ok (e.hour.accepts x.hour) :=
    tryAccepts_eq_ok hread .hour _
  have hminute : tryAccepts e.minute x.minute = .ok (e.minute.accepts x.minute) :=
    tryAccepts_eq_ok hread .minute _
  simp only [tryJudge, hmonth, tryDate_eq_ok hread, hhour, hminute, bind, Except.bind, pure,
    Except.pure, judge]
  repeat' split
  all_goals rfl

/-- By induction on the steps: each asks for one verdict, and is ready for the end of the calendar. -/
theorem tryRun_eq_ok (hread : Expression.read text = .ok e) (n : Nat) (c : Cursor) :
    tryRun e n c = .ok (run e n c) := by
  induction n generalizing c with
  | zero => rfl
  | succ n ih =>
    obtain ⟨hout, hrun⟩ | ⟨hout, hfires, hrun⟩ | ⟨hout, hne, ⟨x, hx, hrun⟩ | ⟨err, hx, hrun⟩⟩ :=
      run_succ_cases e n c
    · simp only [tryRun, hout, if_true, hrun]
    · simp only [tryRun, hout, Bool.false_eq_true, if_false, tryJudge_eq_ok hread, hfires, hrun]
    · simp only [tryRun, hout, Bool.false_eq_true, if_false, tryJudge_eq_ok hread, hx, hrun]
      exact ih _
    · simp only [tryRun, hout, Bool.false_eq_true, if_false, tryJudge_eq_ok hread, hx, hrun]

/-- Without a next minute the day is the last one of the calendar. -/
theorem nextMinute_eq_error {x : Instant} {err : CalendarError} (h : x.nextMinute = .error err) :
    err = .dateOutOfRange := by
  unfold Instant.nextMinute at h
  split at h
  · cases h
  unfold Instant.nextHour at h
  split at h
  · cases h
  unfold Instant.nextDay at h
  split at h
  · cases h
  · cases h
    rfl

/-- **An outcome of each search**, from all references and within all bounds. -/
theorem tryOutcome_eq_ok (hread : Expression.read text = .ok e) (settings : Settings)
    (reference : Instant) : tryOutcome e settings reference = .ok (outcome e settings reference) := by
  cases hstart : reference.truncate.nextMinute with
  | ok start =>
    simp only [tryOutcome, outcome, Cursor.startAfter, hstart, Except.map]
    exact tryRun_eq_ok hread _ _
  | error err =>
    rw [nextMinute_eq_error hstart] at hstart
    simp only [tryOutcome, outcome, Cursor.startAfter, hstart, Except.map]

end Search

end Cron
