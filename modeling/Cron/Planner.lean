import Cron.Description
import Cron.Log.Record
import Cron.Search.Outcome
import Cron.Settings.Load
import Cron.Settings.Object

/-! # Planners

A planner answers questions about cron texts and never fails on a bad one: a text that is no
expression is an answer of its own and leaves one record in the log. Settings are needed only to
search; they are loaded when they are first needed, kept from then on, and asked for again while
loading fails.

A planner keeps its search as well, and the search keeps the settings object that it was made with.
Both refer to the object by its place in memory, so that either sees what is changed through the
other.
-/

namespace Cron

open Calendar

/-- A value and the records written on the way to it. -/
abbrev Logged (α : Type) := α × List Log.Record

/-- The record of a text that is no expression. -/
def rejectionRecord (text : String) (e : Rejection) : Log.Record :=
  ⟨"CronEngine", "Rejected " ++ Text.quoted text ++ ": " ++ e.message⟩

/-- A reading of a text, with the record of its rejection if it was rejected. -/
def withRejection {α : Type} (text : String) :
    Except Rejection α → Logged (Except Rejection α)
  | .ok value => (.ok value, [])
  | .error e => (.error e, [rejectionRecord text e])

/-! ## Questions that need no settings -/

/-- The five words of a text or of the expression it names. -/
def parse (text : String) : Logged (Except Rejection FieldTexts) :=
  withRejection text (FieldTexts.read (Alias.expand text))

/-- Whether a text is an expression, and if not, why. -/
def validate (text : String) : Logged (Except Rejection Unit) :=
  withRejection text ((Expression.read text).map fun _ => ())

/-- The next instant at which an expression fires, with the record of a search in vain. -/
def Search.next (e : Expression) (settings : Settings) (reference : Instant) :
    Logged (Option Instant) :=
  let o := outcome e settings reference
  (o.instant?, (o.message e settings).toList.map fun text => ⟨"OccurrenceSearch", text⟩)

/-! ## Planners -/

/-- A planner: overrides for the settings, and what has been made of them so far. -/
structure Planner where
  overrides : List (String × Int)
  /-- The settings objects in memory. -/
  objects : List SettingsObject
  /-- The place of the settings, once they are loaded. -/
  settings : Option Nat
  /-- The place of the settings object that the search reads its bounds from, once there is a
  search. -/
  search : Option Nat
  deriving DecidableEq

namespace Planner

/-- A planner that has loaded nothing. -/
def ofOverrides (overrides : List (String × Int)) : Planner :=
  ⟨overrides, [], none, none⟩

/-- A planner with overrides, unless one is given for the key by which a planner knows itself. -/
def ofOverrides? (overrides : List (String × Int)) : Option Planner :=
  if objectKey ∈ overrides.map Prod.fst then none else some (ofOverrides overrides)

/-- The settings object at a place in memory. -/
def object (p : Planner) (place : Nat) : SettingsObject :=
  p.objects.getD place (.ofSettings .default)

/-- The place of the settings of a planner, which are loaded now if they are not yet. -/
def load (p : Planner) (env : Environment) : Except LoadError (Nat × Planner) :=
  match p.settings with
  | some place => .ok (place, p)
  | none =>
    (Settings.load env p.overrides).map fun settings =>
      (p.objects.length, { p with
        objects := p.objects ++ [.ofSettings settings]
        settings := some p.objects.length })

/-- The place that the search of a planner reads its bounds from. A search is made of the settings
now if there is none yet. -/
def loadSearch (p : Planner) (env : Environment) : Except LoadError (Nat × Planner) :=
  match p.search with
  | some place => .ok (place, p)
  | none => (p.load env).map fun (place, p) => (place, { p with search := some place })

/-- The next instant after the reference at which a text fires. A bad text loads nothing. -/
def next (p : Planner) (env : Environment) (text : String) (reference : Instant) :
    Except LoadError (Logged (Option Instant) × Planner) :=
  match Expression.read text with
  | .error e => .ok ((none, [rejectionRecord text e]), p)
  | .ok e =>
    (p.loadSearch env).map fun (place, p) => (Search.next e (p.object place).values reference, p)

section next

variable {env : Environment} {text : String}

theorem next_of_error {err : Rejection} (h : Expression.read text = .error err) (p : Planner)
    (reference : Instant) :
    p.next env text reference = .ok ((none, [rejectionRecord text err]), p) := by
  delta next
  rw [h]

theorem next_of_ok {e : Expression} (h : Expression.read text = .ok e) (p : Planner)
    (reference : Instant) : p.next env text reference =
      (p.loadSearch env).map fun (place, p) =>
        (Search.next e (p.object place).values reference, p) := by
  delta next
  rw [h]

end next

/-- Update the settings of a planner by key, loading them first if they are not yet. The settings
are kept where the update is refused, with whatever has been set by then. -/
def update (p : Planner) (env : Environment) (values : List (String × Int)) :
    Except LoadError (Except UpdateError Settings × Planner) :=
  (p.load env).map fun (place, p) =>
    let (result, o) := (p.object place).update values
    (result.map fun () => o.values, { p with objects := p.objects.set place o })

end Planner

end Cron
