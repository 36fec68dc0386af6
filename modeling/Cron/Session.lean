import Cron.Planner
import Cron.Random.Shape

/-! # Sessions

A session is a planner in an environment, and a run of requests to it. A request that fails is
answered with its error and does not stop the ones after it.
-/

namespace Cron

open Calendar Cron.Random

/-- A planner and the environment it is in. -/
structure Session where
  environment : Environment
  planner : Planner

/-- What can be asked of a session. -/
inductive Request where
  /-- Set an environment variable, or unset it. -/
  | setVariable (name : String) (value : Option String)
  | parse (text : String)
  | validate (text : String)
  | describe (text : String)
  /-- The next instant after a reference at which a text fires. -/
  | next (text : String) (reference : Instant)
  /-- A random expression, of a shape if one is named. -/
  | random (shape : Option String) (source : Source)
  | settings
  /-- Update the settings by key. -/
  | update (values : List (String × Int))

/-- What a session answers. -/
inductive Reply where
  | nothing
  | parsed (texts : Except Rejection FieldTexts)
  | validated (result : Except Rejection Unit)
  | described (sentence : String)
  | occurrence (instant : Option Instant)
  /-- A random expression, and the number of answers to each request for randomness. -/
  | generated (text : String) (sizes : List Nat)
  | settings (settings : Settings)
  | unknownShape (error : UnknownShape)
  | notLoaded (error : LoadError)
  | notUpdated (error : UpdateError)

/-- The answer to an update. -/
def Reply.ofUpdate : Except UpdateError Settings → Reply
  | .ok values => Reply.settings values
  | .error e => .notUpdated e

namespace Session

/-- A session at its start. -/
def start (environment : Environment) (overrides : List (String × Int)) : Session :=
  ⟨environment, Planner.ofOverrides overrides⟩

/-- The answer that a session goes on with, or the load error that leaves it as it was. -/
def answer (s : Session) :
    Except LoadError (Logged Reply × Planner) → Logged Reply × Session
  | .ok (reply, planner) => (reply, { s with planner })
  | .error e => ((.notLoaded e, []), s)

/-- Answer one request. -/
def step (s : Session) : Request → Logged Reply × Session
  | .setVariable name value =>
    ((.nothing, []), { s with environment := s.environment.set name value })
  | .parse text =>
    let (texts, records) := Cron.parse text
    ((.parsed texts, records), s)
  | .validate text =>
    let (result, records) := Cron.validate text
    ((.validated result, records), s)
  | .describe text => ((.described (Cron.describe text), []), s)
  | .next text reference =>
    s.answer <| (s.planner.next s.environment text reference).map fun ((instant, records), p) =>
      ((.occurrence instant, records), p)
  | .random shape source =>
    match expressionOf shape with
    | .ok choice =>
      let (text, sizes) := choice.run source 0
      ((.generated text sizes, []), s)
    | .error e => ((.unknownShape e, []), s)
  | .settings =>
    s.answer <| (s.planner.load s.environment).map fun (place, p) =>
      ((.settings (p.object place).values, []), p)
  | .update values =>
    s.answer <| (s.planner.update s.environment values).map fun (result, p) =>
      ((.ofUpdate result, []), p)

/-- Answer requests one after the other. -/
def run (s : Session) : List Request → List (Logged Reply) × Session
  | [] => ([], s)
  | request :: rest =>
    let (reply, s) := s.step request
    let (replies, s) := s.run rest
    (reply :: replies, s)

end Session

end Cron
