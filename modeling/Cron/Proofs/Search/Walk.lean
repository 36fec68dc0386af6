import Cron.Proofs.Search.Soundness

/-! # Walks of a cursor

A walk steps a cursor on and on, past what it finds, and keeps what it has judged. From unit to unit
nothing is lost and nothing is met twice: a unit that is left on a refusal holds no minute that
fires, and one that is left on a finding holds no other minute. So after any number of steps the
findings are all minutes that fire from the start of the walk up to its cursor, in order. A step can
fail only where the calendar ends; it leaves the walk as it was, and nothing fires after it.

`Exact` is the invariant. Main statements: `Exact.step`, `Exact.of_steps`, and
`not_fires_of_resume_error` for the end of the calendar.
-/

namespace Cron.Search

open Calendar

variable {e : Expression}

/-! ## Walks -/

/-- A cursor on its way. -/
structure Walk where
  cursor : Cursor
  /-- The instants judged so far with their verdicts, in order. -/
  judged : List (Instant × Verdict)
  deriving DecidableEq

namespace Walk

/-- A walk at its start. -/
def start (c : Cursor) : Walk :=
  ⟨c, []⟩

/-- The instants judged so far. -/
def passed (w : Walk) : List Instant :=
  w.judged.map Prod.fst

/-- Those of them at which the expression was found to fire. -/
def findings (w : Walk) : List Instant :=
  (w.judged.filter fun visit => visit.2 = .fires).map Prod.fst

/-- The walk with a verdict on the instant of its cursor, and the cursor moved on. -/
def visit (w : Walk) (verdict : Verdict) (next : Cursor) : Walk :=
  ⟨next, w.judged ++ [(w.cursor.instant, verdict)]⟩

/-- Step the cursor, whatever the verdict. A step that fails leaves the walk as it is. -/
def step (e : Expression) (w : Walk) : Except CalendarError Unit × Walk :=
  match w.cursor.step e with
  | (verdict, .ok next) => (.ok (), w.visit verdict next)
  | (_, .error err) => (.error err, w)

/-- The second walk is the first one after `n` steps that succeed. -/
inductive Steps (e : Expression) : Nat → Walk → Walk → Prop
  | zero (w : Walk) : Steps e 0 w w
  | succ {n : Nat} {w w' w'' : Walk} (steps : Steps e n w w') (step : w'.step e = (.ok (), w'')) :
    Steps e (n + 1) w w''

/-- A walk may also be told from its first step. -/
theorem Steps.cons {n : Nat} {w w' w'' : Walk} (step : w.step e = (.ok (), w'))
    (steps : Steps e n w' w'') : Steps e (n + 1) w w'' := by
  induction steps with
  | zero => exact .succ (.zero w) step
  | succ _ last ih => exact .succ (ih step) last

/-! ### What a step does -/

variable {w w' : Walk}

@[simp] theorem passed_visit (verdict : Verdict) (next : Cursor) :
    (w.visit verdict next).passed = w.passed ++ [w.cursor.instant] := by
  simp [passed, visit]

@[simp] theorem mem_findings_visit {verdict : Verdict} {next : Cursor} {x : Instant} :
    x ∈ (w.visit verdict next).findings ↔
      x ∈ w.findings ∨ x = w.cursor.instant ∧ verdict = .fires := by
  by_cases h : verdict = .fires <;> simp [findings, visit, h]

theorem step_of_resume {y : Instant}
    (h : (judge e w.cursor.instant).resume w.cursor.instant = .ok y) :
    w.step e = (.ok (), w.visit (judge e w.cursor.instant) (w.cursor.moveTo y)) := by
  simp only [step, Cursor.step, h, Except.map]

theorem step_eq_ok (h : w.step e = (.ok (), w')) :
    ∃ y, (judge e w.cursor.instant).resume w.cursor.instant = .ok y ∧
      w' = w.visit (judge e w.cursor.instant) (w.cursor.moveTo y) := by
  unfold step Cursor.step at h
  cases hy : (judge e w.cursor.instant).resume w.cursor.instant with
  | ok y =>
    simp only [hy, Except.map, Prod.mk.injEq, true_and] at h
    exact ⟨y, rfl, h.symm⟩
  | error err =>
    simp only [hy, Except.map, Prod.mk.injEq] at h
    exact absurd h.1 (by simp)

theorem step_eq_error {err : CalendarError} (h : w.step e = (.error err, w')) :
    (judge e w.cursor.instant).resume w.cursor.instant = .error err ∧ w' = w := by
  unfold step Cursor.step at h
  cases hy : (judge e w.cursor.instant).resume w.cursor.instant with
  | ok y =>
    simp only [hy, Except.map, Prod.mk.injEq] at h
    exact absurd h.1 (by simp)
  | error err' =>
    simp only [hy, Except.map, Prod.mk.injEq, Except.error.injEq] at h
    exact ⟨by rw [h.1], h.2.symm⟩

/-- The findings are among the instants passed, in the same order. -/
theorem findings_sublist (w : Walk) : w.findings.Sublist w.passed :=
  List.filter_sublist.map Prod.fst

end Walk

/-! ## Between two positions -/

/-- Of the minutes of a unit that is left, none fires but the one at which the expression was found
to fire. -/
theorem fires_iff_of_lt_resume {x y z : Instant} (hx : x.IsWholeMinute)
    (hy : (judge e x).resume x = .ok y) (hz : z.IsWholeMinute) (hoffset : z.offset = x.offset)
    (hxz : x.minutes ≤ z.minutes) (hzy : z.minutes < y.minutes) :
    e.Fires z ↔ z = x ∧ judge e x = .fires := by
  constructor
  · intro hfires
    by_cases hfound : judge e x = .fires
    · -- the minute of a finding is left for the next one
      rw [hfound] at hy
      have hnext := Instant.minutes_nextMinute hy
      exact ⟨Instant.eq_of_minutes_eq hz hx hoffset (by omega), hfound⟩
    · have hreached := Instant.notReachedBy_of_ok hy hzy
      exact absurd hfires (Verdict.not_fires_of_notReachedBy hfound hxz hreached)
  · rintro ⟨rfl, hfound⟩
    exact judge_eq_fires_iff.1 hfound

/-- Where the calendar ends no later minute fires. -/
theorem not_fires_of_resume_error {x z : Instant} {err : CalendarError}
    (hx : (judge e x).resume x = .error err) (hz : z.IsWholeMinute) (hxz : x < z) :
    ¬ e.Fires z := by
  rw [Instant.lt_iff_of_isWholeMinute hz] at hxz
  have hreached : z.NotReachedBy ((judge e x).resume x) := Instant.notReachedBy_of_error hx
  by_cases hfound : judge e x = .fires
  · -- no minute comes after the one that was found
    rw [hfound] at hreached
    have hsame := Instant.sameMinute_of_notReachedBy (Nat.le_of_lt hxz) hreached
    have heq : z.minutes = x.minutes := by
      rw [Instant.minutes, hsame.1, hsame.2.1, hsame.2.2]
      rfl
    omega
  · exact Verdict.not_fires_of_notReachedBy hfound (Nat.le_of_lt hxz) hreached

/-! ## The invariant -/

namespace Walk

/-- **Exactness** of a walk from the cursor `c` after `n` steps: the cursor has gone forward in
whole minutes only, and what was found is what fires from the start up to the cursor. -/
structure Exact (e : Expression) (c : Cursor) (n : Nat) (w : Walk) : Prop where
  steps_eq : w.cursor.steps = c.steps + n
  lastYear_eq : w.cursor.lastYear = c.lastYear
  isWholeMinute : w.cursor.instant.IsWholeMinute
  offset_eq : w.cursor.instant.offset = c.instant.offset
  start_le : c.instant ≤ w.cursor.instant
  length_passed : w.passed.length = n
  /-- The instants passed and the one of the cursor are in order. -/
  ordered : (w.passed ++ [w.cursor.instant]).Pairwise (· < ·)
  mem_findings_iff : ∀ x : Instant, x ∈ w.findings ↔ x.IsWholeMinute ∧
    x.offset = c.instant.offset ∧ c.instant ≤ x ∧ x < w.cursor.instant ∧ e.Fires x

namespace Exact

variable {c : Cursor} {n : Nat} {w w' : Walk}

/-- At its start a walk has passed nothing, and nothing lies behind it. -/
theorem start (hc : c.instant.IsWholeMinute) : Exact e c 0 (Walk.start c) where
  steps_eq := rfl
  lastYear_eq := rfl
  isWholeMinute := hc
  offset_eq := rfl
  start_le := Nat.le_refl _
  length_passed := rfl
  ordered := List.pairwise_singleton _ _
  mem_findings_iff := by
    intro x
    constructor
    · intro h
      cases h
    · rintro ⟨-, -, hle, hlt, -⟩
      exact absurd (Nat.lt_of_le_of_lt hle hlt) (Nat.lt_irrefl _)

/-- **Step**: a step that succeeds keeps a walk exact. -/
theorem step (h : Exact e c n w) (hstep : w.step e = (.ok (), w')) : Exact e c (n + 1) w' := by
  obtain ⟨y, hy, rfl⟩ := step_eq_ok hstep
  have hrest := Verdict.sameRest_resume hy
  have hforward := Verdict.minutes_lt_resume hy
  have hwhole : y.IsWholeMinute := hrest.isWholeMinute h.isWholeMinute
  have hlt : w.cursor.instant < y := (Instant.lt_iff_of_isWholeMinute hwhole).2 hforward
  refine ⟨?steps, h.lastYear_eq, hwhole, hrest.2.2.trans h.offset_eq, ?start, ?length, ?ordered,
    ?findings⟩
  case steps =>
    show w.cursor.steps + 1 = c.steps + (n + 1)
    rw [h.steps_eq, Nat.add_assoc]
  case start => exact Nat.le_trans h.start_le (Nat.le_of_lt hlt)
  case length => rw [passed_visit, List.length_append, h.length_passed, List.length_singleton]
  case ordered =>
    -- all that was passed before lies before the old position, and that before the new one
    have hbefore : ∀ x ∈ w.passed ++ [w.cursor.instant], x < y := by
      intro x hx
      rcases List.mem_append.1 hx with hx | hx
      · have hxc : x < w.cursor.instant :=
          (List.pairwise_append.1 h.ordered).2.2 x hx _ List.mem_cons_self
        exact Nat.lt_trans hxc hlt
      · rw [List.mem_singleton.1 hx]
        exact hlt
    rw [passed_visit, List.pairwise_append]
    refine ⟨h.ordered, List.pairwise_singleton _ _, ?_⟩
    intro x hx z hz
    rw [List.mem_singleton.1 hz]
    exact hbefore x hx
  case findings =>
    intro x
    rw [mem_findings_visit, h.mem_findings_iff]
    constructor
    · rintro (⟨hx, hoffset, hle, hxc, hfires⟩ | ⟨rfl, hfound⟩)
      · exact ⟨hx, hoffset, hle, Nat.lt_trans hxc hlt, hfires⟩
      · exact ⟨h.isWholeMinute, h.offset_eq, h.start_le, hlt, judge_eq_fires_iff.1 hfound⟩
    · rintro ⟨hx, hoffset, hle, hxy, hfires⟩
      by_cases hxc : x < w.cursor.instant
      · exact Or.inl ⟨hx, hoffset, hle, hxc, hfires⟩
      · -- what fires in the unit that is left is its finding
        have hxy' := (Instant.lt_iff_of_isWholeMinute hwhole).1 hxy
        rw [Instant.lt_iff_of_isWholeMinute h.isWholeMinute] at hxc
        have hsame : x.offset = w.cursor.instant.offset := hoffset.trans h.offset_eq.symm
        exact Or.inr ((fires_iff_of_lt_resume h.isWholeMinute hy hx hsame (by omega) hxy').1 hfires)

/-- **Run**: by induction on the steps, a walk is exact all the way. -/
theorem of_steps (hc : c.instant.IsWholeMinute) (h : Steps e n (Walk.start c) w) :
    Exact e c n w := by
  generalize hw : Walk.start c = first at h
  induction h with
  | zero => exact hw ▸ start hc
  | succ _ hstep ih => exact (ih hw).step hstep

/-- The findings of an exact walk are in order, so none of them is met twice. -/
theorem findings_ordered (h : Exact e c n w) : w.findings.Pairwise (· < ·) :=
  (List.pairwise_append.1 h.ordered).1.sublist w.findings_sublist

end Exact

end Walk

/-! ## Walks from a reference -/

/-- The cursor of a search starts at the first minute after the reference. -/
theorem startAfter_eq_ok {r : Instant} {years : Int} {c : Cursor}
    (h : Cursor.startAfter r years = .ok c) :
    FirstMinuteAfter r c.instant ∧ c.lastYear = c.instant.date.year + years ∧ c.steps = 0 := by
  unfold Cursor.startAfter at h
  cases hx : r.truncate.nextMinute with
  | ok x =>
    rw [hx] at h
    cases h
    exact ⟨firstMinuteAfter_of_nextMinute hx, rfl, rfl⟩
  | error err =>
    rw [hx] at h
    cases h

/-- **Nothing lost, nothing twice**: after any number of steps from the first minute after a
reference, past findings as well, a cursor stands at a later whole minute than ever before, read
with the offset of the reference, with its steps counted and its last year as it was fixed. The
findings are all minutes from the start up to the cursor at which the expression fires, in order. A
step that fails leaves everything as it was, and no minute after the cursor fires. -/
theorem walk_exact {r : Instant} {years : Int} {c : Cursor} {n : Nat} {w : Walk}
    (hstart : Cursor.startAfter r years = .ok c) (hsteps : Walk.Steps e n (Walk.start c) w) :
    FirstMinuteAfter r c.instant ∧
    w.cursor.steps = n ∧ w.cursor.lastYear = c.instant.date.year + years ∧
    w.cursor.instant.IsWholeMinute ∧ w.cursor.instant.offset = r.offset ∧
    w.passed.length = n ∧ (w.passed ++ [w.cursor.instant]).Pairwise (· < ·) ∧
    w.findings.Pairwise (· < ·) ∧
    (∀ x : Instant, x ∈ w.findings ↔ x.IsWholeMinute ∧ x.offset = r.offset ∧
      c.instant ≤ x ∧ x < w.cursor.instant ∧ e.Fires x) ∧
    ∀ err w', w.step e = (.error err, w') → w' = w ∧
      ∀ y : Instant, y.IsWholeMinute → w.cursor.instant < y → ¬ e.Fires y := by
  obtain ⟨hfirst, hyear, hzero⟩ := startAfter_eq_ok hstart
  have hexact : Walk.Exact e c n w := Walk.Exact.of_steps hfirst.isWholeMinute hsteps
  have hoffset : c.instant.offset = r.offset := hfirst.offset_eq
  refine ⟨hfirst, ?steps, hexact.lastYear_eq.trans hyear, hexact.isWholeMinute,
    hexact.offset_eq.trans hoffset, hexact.length_passed, hexact.ordered, hexact.findings_ordered,
    ?findings, ?stopped⟩
  case steps => rw [hexact.steps_eq, hzero, Nat.zero_add]
  case findings =>
    intro x
    rw [hexact.mem_findings_iff, hoffset]
  case stopped =>
    intro err w' hstep
    obtain ⟨herror, hsame⟩ := Walk.step_eq_error hstep
    exact ⟨hsame, fun y hy hlt => not_fires_of_resume_error herror hy hlt⟩

/-- The expression `58-59 23 31 12 *`, which fires in the last two minutes of every year. -/
def yearEnd : Expression :=
  ⟨⟨"58-59", [.plain (.range 58 59)]⟩, ⟨"23", [.plain (.single 23)]⟩, ⟨"31", [.plain (.single 31)]⟩,
    ⟨"12", [.plain (.single 12)]⟩, ⟨"*", [.plain .wildcard]⟩⟩

theorem read_yearEnd : Expression.read "58-59 23 31 12 *" = .ok yearEnd := by rfl

/-- A reading of the last hour of the calendar. -/
def lastHour (minute second : Nat) (minute_lt : minute < 60) (second_lt : second < 60) :
    Instant where
  date := ⟨9999, 12, 31, by omega, Nat.le_refl 9999, by omega, by omega, by omega, Nat.le_refl 31⟩
  hour := 23
  minute := minute
  second := second
  microsecond := 0
  hour_lt := by omega
  minute_lt := minute_lt
  second_lt := second_lt
  microsecond_lt := by omega
  offset := some 19800

/-- From 23:57 on the last day of the calendar a walk goes past one finding and stops at another. -/
theorem walk_exact_calendar_end : ∃ (c : Cursor) (w : Walk),
    Expression.read "58-59 23 31 12 *" = .ok yearEnd ∧
    Cursor.startAfter (lastHour 56 40 (by decide) (by decide)) 0 = .ok c ∧
    Walk.Steps yearEnd 2 (Walk.start c) w ∧
    w.findings = [lastHour 58 0 (by decide) (by decide)] ∧
    w.cursor = ⟨lastHour 59 0 (by decide) (by decide), 9999, 2⟩ ∧
    (∀ x : Instant, x ∈ w.findings ↔ x.IsWholeMinute ∧ x.offset = some 19800 ∧
      c.instant ≤ x ∧ x < w.cursor.instant ∧ yearEnd.Fires x) ∧
    yearEnd.Fires w.cursor.instant ∧ w.step yearEnd = (.error .dateOutOfRange, w) ∧
    ∀ y : Instant, y.IsWholeMinute → w.cursor.instant < y → ¬ yearEnd.Fires y := by
  let c : Cursor := ⟨lastHour 57 0 (by decide) (by decide), 9999, 0⟩
  let w : Walk := ⟨⟨lastHour 59 0 (by decide) (by decide), 9999, 2⟩,
    [(lastHour 57 0 (by decide) (by decide), .wrongMinute),
      (lastHour 58 0 (by decide) (by decide), .fires)]⟩
  have hstart : Cursor.startAfter (lastHour 56 40 (by decide) (by decide)) 0 = .ok c := rfl
  have hsteps : Walk.Steps yearEnd 2 (Walk.start c) w := .succ (.succ (.zero _) rfl) rfl
  have hstop : w.step yearEnd = (.error .dateOutOfRange, w) := rfl
  obtain ⟨-, -, -, -, -, -, -, -, hfindings, hstopped⟩ := walk_exact hstart hsteps
  exact ⟨c, w, read_yearEnd, hstart, hsteps, rfl, rfl, hfindings, by decide, hstop,
    (hstopped _ _ hstop).2⟩

end Cron.Search
