import Cron.Proofs.Calendar.Order

/-! # The first minute after an instant

Searches answer with the first whole minute after a reference that has some property. This module
says what that means, for an arbitrary property, and that there is at most one such minute. With the
property that always holds it is the first whole minute after the reference, where searches start.

Main statements: `FirstAfter.unique`, and `firstMinuteAfter_of_nextMinute`, which finds the first
minute by a move.
-/

namespace Cron.Calendar

/-- **First minute with a property**: `x` is the first of the whole minutes strictly after `r` that
satisfy `P`, read with the offset of `r`. -/
structure FirstAfter (P : Instant → Prop) (r x : Instant) : Prop where
  isWholeMinute : x.IsWholeMinute
  offset_eq : x.offset = r.offset
  lt : r < x
  holds : P x
  /-- No whole minute strictly between the two satisfies `P`. -/
  not_between : ∀ y : Instant, y.IsWholeMinute → r < y → y < x → ¬ P y

/-- `x` is the first whole minute strictly after `r`. -/
def FirstMinuteAfter (r x : Instant) : Prop :=
  FirstAfter (fun _ => True) r x

namespace FirstAfter

variable {P : Instant → Prop} {r x y : Instant}

theorem le (hx : FirstAfter P r x) (hy : y.IsWholeMinute) (hlt : r < y) (hP : P y) : x ≤ y := by
  have hyx : ¬ y < x := by
    intro h
    exact hx.not_between y hy hlt h hP
  rw [Instant.lt_iff_of_isWholeMinute hx.isWholeMinute] at hyx
  rw [Instant.le_iff_minutes_le hx.isWholeMinute hy]
  omega

/-- There is at most one first minute. -/
theorem unique (hx : FirstAfter P r x) (hy : FirstAfter P r y) : x = y := by
  have hxy := hx.le hy.isWholeMinute hy.lt hy.holds
  have hyx := hy.le hx.isWholeMinute hx.lt hx.holds
  rw [Instant.le_iff_minutes_le hx.isWholeMinute hy.isWholeMinute] at hxy
  rw [Instant.le_iff_minutes_le hy.isWholeMinute hx.isWholeMinute] at hyx
  exact Instant.eq_of_minutes_eq hx.isWholeMinute hy.isWholeMinute
    (hx.offset_eq.trans hy.offset_eq.symm) (by omega)

/-- A property that the first minute has as well may be added. -/
theorem and {Q : Instant → Prop} (hx : FirstAfter P r x) (hQ : Q x) :
    FirstAfter (fun y => P y ∧ Q y) r x where
  isWholeMinute := hx.isWholeMinute
  offset_eq := hx.offset_eq
  lt := hx.lt
  holds := ⟨hx.holds, hQ⟩
  not_between := fun y hy hlt hyx hPQ => hx.not_between y hy hlt hyx hPQ.1

end FirstAfter

/-! ## The first minute of all -/

namespace FirstMinuteAfter

variable {r x y : Instant}

/-- The whole minutes strictly after `r` are those from the first one on. -/
theorem lt_iff (hx : FirstMinuteAfter r x) (hy : y.IsWholeMinute) : r < y ↔ x ≤ y := by
  have hwhole : x.IsWholeMinute := hx.isWholeMinute
  constructor
  · intro hlt
    exact FirstAfter.le hx hy hlt trivial
  · intro hle
    have hr := hx.lt
    rw [Instant.lt_iff_of_isWholeMinute hwhole] at hr
    rw [Instant.le_iff_minutes_le hwhole hy] at hle
    rw [Instant.lt_iff_of_isWholeMinute hy]
    omega

/-- After a later instant the first minute is no earlier. -/
theorem mono {r' x' : Instant} (hx : FirstMinuteAfter r x) (hx' : FirstMinuteAfter r' x')
    (hle : r ≤ r') : x ≤ x' := by
  have hlt : r < x' := Nat.lt_of_le_of_lt hle (FirstAfter.lt hx')
  exact (hx.lt_iff (FirstAfter.isWholeMinute hx')).1 hlt

/-- The minutes of later years are after `r`. -/
theorem lt_of_year_lt (hx : FirstMinuteAfter r x) (hy : y.IsWholeMinute)
    (h : x.date.year < y.date.year) : r < y := by
  have hxy : x.minutes < y.minutes :=
    Instant.minutes_lt_iff.2 (Or.inl (Date.ordinal_lt_of_year_lt h))
  rw [hx.lt_iff hy, Instant.le_iff_minutes_le hx.isWholeMinute hy]
  omega

end FirstMinuteAfter

/-- The minute after the one that `r` lies in is the first one after `r`. -/
theorem firstMinuteAfter_of_nextMinute {r x : Instant} (h : r.truncate.nextMinute = .ok x) :
    FirstMinuteAfter r x := by
  have hrest := Instant.sameRest_nextMinute h
  have hx : x.IsWholeMinute := hrest.isWholeMinute r.isWholeMinute_truncate
  have hminutes : x.minutes = r.minutes + 1 := by
    rw [Instant.minutes_nextMinute h, Instant.minutes_truncate]
  -- `x` has the number after that of `r`, and no number lies between the two
  refine ⟨hx, hrest.2.2, ?_, trivial, ?_⟩
  · rw [Instant.lt_iff_of_isWholeMinute hx]
    omega
  · intro y hy hry hyx
    rw [Instant.lt_iff_of_isWholeMinute hy] at hry
    rw [Instant.lt_iff_of_isWholeMinute hx] at hyx
    omega

/-- Where there is no such minute, the calendar holds no later one. -/
theorem not_lt_of_nextMinute_error {r : Instant} {err : CalendarError}
    (h : r.truncate.nextMinute = .error err) {y : Instant} (hy : y.IsWholeMinute) : ¬ r < y := by
  rw [Instant.lt_iff_of_isWholeMinute hy]
  intro hlt
  have hle : r.truncate.minutes ≤ y.minutes := by
    rw [Instant.minutes_truncate]
    omega
  -- the move on from `r` arrives nowhere, so `y` is in the minute of `r`
  have hsame := Instant.sameMinute_of_notReachedBy hle (Instant.notReachedBy_of_error h)
  have heq : y.minutes = r.minutes := by
    rw [Instant.minutes, hsame.1, hsame.2.1, hsame.2.2]
    rfl
  omega

/-- An instant has a first minute after it as soon as some minute is after it. -/
theorem exists_firstMinuteAfter {r y : Instant} (hy : y.IsWholeMinute) (hlt : r < y) :
    ∃ x, r.truncate.nextMinute = .ok x ∧ FirstMinuteAfter r x := by
  cases h : r.truncate.nextMinute with
  | ok x => exact ⟨x, rfl, firstMinuteAfter_of_nextMinute h⟩
  | error err => exact absurd hlt (not_lt_of_nextMinute_error h hy)

end Cron.Calendar
