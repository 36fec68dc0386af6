import Cron.Planner
import Cron.Log.Console

/-! # Runs of the console

The console is configured while texts are validated and searched for, each search by any planner:
with overrides or without, one that has loaded its settings or one that has yet to. What those leave
in the log is printed at once, as far as the console prints it. The environment may change from one
event to the next, and a format may ask for what only the moment tells.
-/

namespace Cron.Log

open Calendar

/-! ## Events -/

/-- What an event meets with: the environment, and what the moment tells of records. -/
structure Surroundings where
  environment : Environment
  moment : Moment

/-- What can happen while the console is on. -/
inductive Event where
  | configure (level : LevelChoice) (format : String)
  | validate (text : String)
  /-- Have a planner search for the next instant after a reference. -/
  | next (planner : Planner) (text : String) (reference : Instant)

/-- What comes of an event. -/
inductive Effect where
  | nothing
  | occurrence (instant : Option Instant)
  | notConfigured (error : ConsoleError)
  | notLoaded (error : LoadError)
  deriving DecidableEq

namespace Console

/-- What comes of one event, what is printed, and the console after it. -/
def step (w : Surroundings) (c : Console) : Event → (Effect × String) × Console
  | .configure level format =>
    match c.configure level format with
    | (.ok (), c) => ((.nothing, ""), c)
    | (.error e, c) => ((.notConfigured e, ""), c)
  | .validate text => ((.nothing, c.print w.moment (Cron.validate text).2), c)
  | .next planner text reference =>
    match planner.next w.environment text reference with
    | .ok ((instant, records), _) => ((.occurrence instant, c.print w.moment records), c)
    | .error e => ((.notLoaded e, ""), c)

theorem step_configure (w : Surroundings) (c : Console) (level : LevelChoice) (format : String) :
    c.step w (.configure level format) =
      match c.configure level format with
      | (.ok (), c) => ((.nothing, ""), c)
      | (.error e, c) => ((.notConfigured e, ""), c) := rfl

theorem step_validate (w : Surroundings) (c : Console) (text : String) :
    c.step w (.validate text) = ((.nothing, c.print w.moment (Cron.validate text).2), c) := rfl

section next

variable {w : Surroundings} {planner : Planner} {text : String} {reference : Instant}

theorem step_next_of_ok {instant : Option Instant} {records : List Record} {p : Planner}
    (h : planner.next w.environment text reference = .ok ((instant, records), p)) (c : Console) :
    c.step w (.next planner text reference) =
      ((.occurrence instant, c.print w.moment records), c) := by
  delta step
  dsimp only
  rw [h]

theorem step_next_of_error {e : LoadError}
    (h : planner.next w.environment text reference = .error e) (c : Console) :
    c.step w (.next planner text reference) = ((.notLoaded e, ""), c) := by
  delta step
  dsimp only
  rw [h]

end next

/-- What comes of events one after the other, each in its surroundings. -/
def run (c : Console) : List (Surroundings × Event) → List (Effect × String) × Console
  | [] => ([], c)
  | (w, event) :: rest =>
    let (effect, c) := c.step w event
    let (effects, c) := c.run rest
    (effect :: effects, c)

theorem run_cons (c : Console) (w : Surroundings) (event : Event)
    (rest : List (Surroundings × Event)) :
    c.run ((w, event) :: rest) =
      ((c.step w event).1 :: ((c.step w event).2.run rest).1, ((c.step w event).2.run rest).2) :=
  rfl

end Console

end Cron.Log
