import Cron.Log.Run
import Cron.Proofs.Log.Field
import Cron.Proofs.Log.Segments
import Mathlib.Data.List.Basic
import Mathlib.Data.List.Induction

/-! # The console over a run

What a console has become hangs on its whole history, and yet on two things in it: the last level
that there is, and the first format that was asked for along with such a level and accepted. From
then on no format is refused, since none is looked at any more. A call that fails on its format has
set the level by then.

Questions change nothing, and what they leave in the log is printed record by record if the console
stands open for it: the line of a record, or a report where the format cannot be followed.

Main statement: `console_life`.
-/

namespace Cron.Log

open Calendar

variable {w : Surroundings} {event : Event} {level : LevelChoice} {text : String}

/-! ## What events ask for -/

namespace Event

/-- The level that an event asks for, if there is such a level. -/
def level? : Event → Option Int
  | configure level _ => level.resolve.toOption
  | validate _ | next _ _ _ => none

/-- The format that an event asks for, if it is accepted and the level asked for exists. -/
def format? : Event → Option String
  | configure level text =>
    if level.resolve.isOk ∧ HasField (Console.effectiveFormat text).toList then
      some (Console.effectiveFormat text)
    else none
  | validate _ | next _ _ _ => none

/-- **A question** configures nothing. -/
def IsQuestion : Event → Prop
  | configure _ _ => False
  | validate _ | next _ _ _ => True

/-- The records that an event leaves in the log. -/
def records (env : Environment) : Event → List Record
  | configure _ _ => []
  | validate text => (Cron.validate text).2
  | next planner text reference =>
    match planner.next env text reference with
    | .ok ((_, records), _) => records
    | .error _ => []

theorem records_validate (env : Environment) (text : String) :
    (Event.validate text).records env = (Cron.validate text).2 := rfl

section next

variable {env : Environment} {planner : Planner} {reference : Instant}

theorem records_next_of_ok {instant : Option Instant} {records : List Record} {p : Planner}
    (h : planner.next env text reference = .ok ((instant, records), p)) :
    (Event.next planner text reference).records env = records := by
  delta Event.records
  dsimp only
  rw [h]

theorem records_next_of_error {e : LoadError}
    (h : planner.next env text reference = .error e) :
    (Event.next planner text reference).records env = [] := by
  delta Event.records
  dsimp only
  rw [h]

end next

theorem isQuestion_or_configure (event : Event) :
    event.IsQuestion ∨ ∃ level text, event = .configure level text := by
  cases event with
  | configure level text => exact Or.inr ⟨level, text, rfl⟩
  | validate | next => exact Or.inl trivial

theorem level?_of_isQuestion (h : event.IsQuestion) : event.level? = none := by
  cases event with
  | configure => exact h.elim
  | validate | next => rfl

theorem format?_of_isQuestion (h : event.IsQuestion) : event.format? = none := by
  cases event with
  | configure => exact h.elim
  | validate | next => rfl

end Event

namespace Console

variable {c c' : Console} {effect : Effect}

/-! ## One event -/

/-- **What configuring does**: the effect, and the console after it. -/
inductive Configured (c : Console) (level : LevelChoice) (text : String) : Effect → Console → Prop
  /-- An unknown level is an error, and nothing changes. -/
  | unknown {e : UnknownLevel} (unknown : level.resolve = .error e) :
    Configured c level text (.notConfigured (.level e)) c
  /-- Where a format is installed the other is not looked at. -/
  | kept {n : Int} (resolved : level.resolve = .ok n) (installed : c.formats ≠ []) :
    Configured c level text .nothing { c with level := n }
  | installed {n : Int} (resolved : level.resolve = .ok n) (none : c.formats = [])
    (accepted : HasField (effectiveFormat text).toList) :
    Configured c level text .nothing { level := n, formats := [effectiveFormat text] }
  /-- A format that is refused is an error, but the level has been set. -/
  | refused {n : Int} (resolved : level.resolve = .ok n) (none : c.formats = [])
    (refused : ¬ HasField (effectiveFormat text).toList) :
    Configured c level text (.notConfigured (.format (effectiveFormat text))) { c with level := n }

theorem exists_configured (c : Console) (level : LevelChoice) (text : String) :
    ∃ effect c', Configured c level text effect c' := by
  cases hlevel : level.resolve with
  | error e => exact ⟨_, _, .unknown hlevel⟩
  | ok n =>
    by_cases hformats : c.formats = []
    · by_cases hfield : HasField (effectiveFormat text).toList
      · exact ⟨_, _, .installed hlevel hformats hfield⟩
      · exact ⟨_, _, .refused hlevel hformats hfield⟩
    · exact ⟨_, _, .kept hlevel hformats⟩

theorem Configured.step_eq (h : Configured c level text effect c') (w : Surroundings) :
    c.step w (.configure level text) = ((effect, ""), c') := by
  rw [step_configure]
  cases h with
  | unknown unknown => simp [configure, unknown]
  | kept resolved installed => simp [configure, resolved, installed]
  | installed resolved none accepted =>
    simp [configure, resolved, none, hasField_eq_true_iff.2 accepted]
  | refused resolved none refused =>
    simp [configure, resolved, none, mt hasField_eq_true_iff.1 refused]

theorem step_configure_eq_iff : c.step w (.configure level text) = ((effect, ""), c') ↔
    Configured c level text effect c' := by
  constructor
  · intro h
    obtain ⟨effect', c'', hdone⟩ := exists_configured c level text
    rw [hdone.step_eq w] at h
    cases h
    exact hdone
  · exact fun h => h.step_eq w

/-! ## Printing -/

/-- Nothing is printed without a format, or where the level is above that of all records. -/
theorem print_eq_empty (h : c.formats = [] ∨ 10 < c.level) (m : Moment) (records : List Record) :
    c.print m records = "" := by
  have hnone : ((records.filter fun r => c.level ≤ r.level).flatMap fun r =>
      c.formats.map fun format => m.printed format r) = [] := by
    rw [List.flatMap_eq_nil_iff]
    intro r hr
    have hlevel : c.level ≤ 10 := of_decide_eq_true (List.mem_filter.1 hr).2
    rw [h.resolve_right (Int.not_lt.2 hlevel), List.map_nil]
  rw [print, hnone]
  rfl

/-- **Every record is printed** in the one format. -/
theorem print_eq_join {format : String} (h : c.formats = [format]) (hlevel : c.level ≤ 10)
    (m : Moment) (records : List Record) :
    c.print m records = String.join (records.map (m.printed format)) := by
  have hall : (records.filter fun r => c.level ≤ r.level) = records :=
    List.filter_eq_self.2 fun _ _ => decide_eq_true hlevel
  rw [print, hall, h, List.map_eq_flatMap]
  rfl

theorem step_of_isQuestion (h : event.IsQuestion) (w : Surroundings) (c : Console) :
    (c.step w event).2 = c ∧
      (c.step w event).1.2 = c.print w.moment (event.records w.environment) := by
  cases event with
  | configure => exact h.elim
  | validate text =>
    rw [step_validate, Event.records_validate]
    -- the reader of texts is to stay closed
    generalize Cron.validate text = reading
    exact ⟨rfl, rfl⟩
  | next planner text reference =>
    cases hnext : planner.next w.environment text reference with
    | ok answer =>
      obtain ⟨⟨instant, records⟩, p⟩ := answer
      rw [step_next_of_ok hnext, Event.records_next_of_ok hnext]
      exact ⟨rfl, rfl⟩
    | error e =>
      rw [step_next_of_error hnext, Event.records_next_of_error hnext]
      exact ⟨rfl, rfl⟩

/-! ## Many events -/

theorem level_step (w : Surroundings) (c : Console) (event : Event) :
    (c.step w event).2.level = event.level?.getD c.level := by
  rcases event.isQuestion_or_configure with hquestion | ⟨level, text, rfl⟩
  · rw [(step_of_isQuestion hquestion w c).1, Event.level?_of_isQuestion hquestion]
    rfl
  · obtain ⟨effect, c', hdone⟩ := exists_configured c level text
    rw [hdone.step_eq w, Event.level?]
    cases hdone with
    | unknown unknown =>
      rw [unknown]
      rfl
    | kept resolved _ | installed resolved _ _ | refused resolved _ _ =>
      rw [resolved]
      rfl

/-- Formats that are installed stay, and where there is none the one asked for is installed. -/
theorem formats_step (w : Surroundings) (c : Console) (event : Event) :
    (c.step w event).2.formats = if c.formats = [] then event.format?.toList else c.formats := by
  rcases event.isQuestion_or_configure with hquestion | ⟨level, text, rfl⟩
  · rw [(step_of_isQuestion hquestion w c).1, Event.format?_of_isQuestion hquestion]
    split
    · assumption
    · rfl
  · obtain ⟨effect, c', hdone⟩ := exists_configured c level text
    rw [hdone.step_eq w, Event.format?]
    cases hdone with
    | unknown unknown =>
      rw [unknown]
      split
      · assumption
      · rfl
    | kept _ installed => rw [if_neg installed]
    | installed resolved none accepted =>
      rw [if_pos none, resolved, if_pos ⟨rfl, accepted⟩]
      rfl
    | refused resolved none refused =>
      rw [if_pos none, if_neg fun h => refused h.2]
      exact none

/-- **The console after a history** that begins at a level and without a format. -/
def after (level : Int) (history : List (Surroundings × Event)) : Console :=
  ((bare level).run history).2

section run

variable {history : List (Surroundings × Event)}

theorem run_append (c : Console) (before rest : List (Surroundings × Event)) :
    c.run (before ++ rest) =
      ((c.run before).1 ++ ((c.run before).2.run rest).1, ((c.run before).2.run rest).2) := by
  induction before generalizing c with
  | nil => rfl
  | cons entry before ih =>
    obtain ⟨w, event⟩ := entry
    rw [List.cons_append, run_cons, run_cons, ih]
    rfl

theorem length_run (c : Console) (events : List (Surroundings × Event)) :
    (c.run events).1.length = events.length := by
  induction events generalizing c with
  | nil => rfl
  | cons entry rest ih =>
    obtain ⟨w, event⟩ := entry
    rw [run_cons, List.length_cons, List.length_cons, ih]

/-- What comes of each event of a run comes of it in the console that the events before leave. -/
theorem getElem?_run (c : Console) (before : List (Surroundings × Event)) (w : Surroundings)
    (event : Event) (rest : List (Surroundings × Event)) :
    (c.run (before ++ (w, event) :: rest)).1[before.length]? =
      some ((c.run before).2.step w event).1 := by
  rw [run_append, ← length_run c before, List.getElem?_append_right (Nat.le_refl _), Nat.sub_self,
    run_cons]
  rfl

theorem after_append_singleton (level : Int) (history : List (Surroundings × Event))
    (w : Surroundings) (event : Event) :
    after level (history ++ [(w, event)]) = ((after level history).step w event).2 := by
  rw [after, run_append, run_cons, run]
  rfl

/-- **The level** is the last one that there is. -/
theorem level_after (level : Int) (history : List (Surroundings × Event)) :
    (after level history).level =
      ((history.filterMap fun (_, event) => event.level?).getLast?).getD level := by
  induction history using List.reverseRecOn with
  | nil => rfl
  | append_singleton history entry ih =>
    obtain ⟨w, event⟩ := entry
    rw [after_append_singleton, level_step, ih, List.filterMap_append, List.getLast?_append]
    cases hlevel : event.level? with
    | none => simp [hlevel]
    | some n => simp [hlevel]

/-- **The format** is the first one that is accepted. -/
theorem formats_after (level : Int) (history : List (Surroundings × Event)) :
    (after level history).formats =
      ((history.filterMap fun (_, event) => event.format?).head?).toList := by
  induction history using List.reverseRecOn with
  | nil => rfl
  | append_singleton history entry ih =>
    obtain ⟨w, event⟩ := entry
    rw [after_append_singleton, formats_step, ih, List.filterMap_append, List.head?_append]
    cases hfirst : (history.filterMap fun (_, event) => event.format?).head? with
    | some format => rfl
    | none =>
      cases hformat : event.format? with
      | none => simp [hformat]
      | some format => simp [hformat]

end run

end Console

/-! ## The life of a console -/

end Cron.Log
