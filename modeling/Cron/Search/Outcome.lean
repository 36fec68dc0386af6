import Cron.Search.Cursor
import Cron.Settings.Basic

/-! # The search for an occurrence

A search steps a cursor from the first whole minute after the reference until the expression fires.
It gives up when the calendar ends, when the cursor leaves the last year it may visit, or when its
steps are used up; the outcome says which, and `Outcome.message` words it for the log.

What is found is not compared with the reference once more: the cursor is after it from the start.
The run that does compare, `runAfter`, is shown to come out alike along with the soundness of
searches.
-/

namespace Cron.Search

open Calendar

/-! ## Outcomes -/

/-- How a search ends. -/
inductive Outcome where
  /-- The expression fires at the instant. -/
  | found (instant : Instant)
  /-- The cursor left the last year that may be visited. -/
  | leftLastYear (cursor : Cursor)
  /-- There is no further instant in the calendar. -/
  | calendarEnd
  /-- The steps are used up. -/
  | outOfSteps (cursor : Cursor)
  deriving DecidableEq

namespace Outcome

/-- The instant found, if one was. -/
def instant? : Outcome → Option Instant
  | found x => some x
  | _ => none

/-- What is written to the log about a search that found nothing. -/
def message (e : Expression) (settings : Settings) : Outcome → Option String
  | found _ => none
  | leftLastYear cursor =>
    some ("No occurrence of " ++ e.text ++ " before the end of " ++ cursor.lastYear.repr)
  | calendarEnd => some ("Search for " ++ e.text ++ " ran past the supported calendar range")
  | outOfSteps _ =>
    some ("No occurrence of " ++ e.text ++ " within " ++ settings.maxSteps.repr ++ " iterations")

end Outcome

/-! ## Searching -/

/-- Step the cursor at most `steps` times. -/
def run (e : Expression) : (steps : Nat) → Cursor → Outcome
  | 0, cursor => .outOfSteps cursor
  | steps + 1, cursor =>
    if cursor.isOut then .leftLastYear cursor
    else
      match cursor.step e with
      | (.fires, _) => .found cursor.instant
      | (_, .ok next) => run e steps next
      | (_, .error _) => .calendarEnd

/-- The outcome of a search after a reference. A bound on the steps below one allows none. -/
def outcome (e : Expression) (settings : Settings) (reference : Instant) : Outcome :=
  match Cursor.startAfter reference settings.horizonYears with
  | .ok cursor => run e settings.maxSteps.toNat cursor
  | .error _ => .calendarEnd

/-- The first instant after the reference at which the expression fires, within the bounds. -/
def next? (e : Expression) (settings : Settings) (reference : Instant) : Option Instant :=
  (outcome e settings reference).instant?

end Cron.Search
