import Cron.Search.Verdict

/-! # Search cursors

A cursor is the position of a search: the instant to be judged, the last year to be visited, which
was fixed at the start, and the number of steps taken so far.
-/

namespace Cron.Search

open Calendar

/-- The position of a search. -/
structure Cursor where
  instant : Instant
  /-- The last year that the search may visit. -/
  lastYear : Int
  /-- The steps taken so far. -/
  steps : Nat
  deriving DecidableEq

namespace Cursor

/-- The cursor at the first whole minute after a reference, for a search through the year of that
minute and some years more. -/
def startAfter (reference : Instant) (years : Int) : Except CalendarError Cursor :=
  reference.truncate.nextMinute.map fun x => ⟨x, x.date.year + years, 0⟩

/-- The cursor has left the last year that may be visited. -/
def isOut (c : Cursor) : Bool :=
  decide (c.lastYear < c.instant.date.year)

/-- The cursor moved to another instant, one step further. -/
def moveTo (c : Cursor) (x : Instant) : Cursor :=
  { c with instant := x, steps := c.steps + 1 }

/-- Judge the instant and move on. -/
def step (e : Expression) (c : Cursor) : Verdict × Except CalendarError Cursor :=
  let verdict := judge e c.instant
  (verdict, (verdict.resume c.instant).map c.moveTo)

end Cursor

end Cron.Search
