import Cron.Proofs.Planner.Sharing
import Cron.Proofs.Settings.Update
import Cron.Session

/-! # What one request does

A request to a session needs settings or it does not. One that does not has the same answer in every
session, and nothing but the environment may change with it. One that does fails with what is wrong,
and leaves the session as it was, or it is answered by the settings object that is available, which
is in use from then on with what the request has made of it.

Only updates make anything of it. A row of them is carried out if none of them is refused, which shows
in their values.

Main statements: `Session.step_of_not_needsSettings`, `Session.step_of_available_eq_error`,
`Session.step_of_available_eq_ok` and `SettingsObject.carriesOut_iff`.
-/

namespace Cron

open Calendar

/-! ## Requests -/

/-- The request needs settings: it looks at them, updates them, or searches for an expression. -/
def Request.NeedsSettings : Request → Prop
  | .next text _ => ∃ e, Expression.read text = .ok e
  | .settings | .update _ => True
  | _ => False

/-- The values that a request updates settings with, by key. -/
def Request.values : Request → List (String × Int)
  | .update values => values
  | _ => []

/-- The request is an update. -/
def Request.IsUpdate : Request → Prop
  | .update _ => True
  | _ => False

instance : DecidablePred Request.IsUpdate
  | .update _ => isTrue trivial
  | .setVariable _ _ | .parse _ | .validate _ | .describe _ | .next _ _ | .random _ _ | .settings =>
    isFalse id

/-- **Undisturbed** is a row of requests whose updates name nothing that cannot be set, and none of
them comes after a value for `update`. -/
def Undisturbed (requests : List Request) : Prop :=
  (∀ request ∈ requests, SettingsObject.Settable request.values) ∧
    requests.Pairwise fun request later =>
      "update" ∈ request.values.map Prod.fst → ¬later.IsUpdate

instance (requests : List Request) : Decidable (Undisturbed requests) :=
  inferInstanceAs (Decidable (_ ∧ _))

/-- The environment after a request. -/
def Environment.after (env : Environment) : Request → Environment
  | .setVariable name value => env.set name value
  | _ => env

/-- The settings object after a request. -/
def SettingsObject.after (o : SettingsObject) : Request → SettingsObject
  | .update values => (o.update values).2
  | _ => o

/-- The settings object after a row of requests. -/
def SettingsObject.afterAll (o : SettingsObject) (history : List Request) : SettingsObject :=
  history.foldl after o

/-! ## Answers -/

/-- The answer to a request that needs settings, in terms of the settings object it finds. -/
inductive Request.AnsweredBy (o : SettingsObject) : Request → Logged Reply → Prop
  /-- The next instant at which the expression fires, with the records of the search. -/
  | next {text : String} {e : Expression} (read : Expression.read text = .ok e)
    (reference : Instant) : Request.AnsweredBy o (.next text reference)
      (.occurrence (Search.next e o.values reference).1, (Search.next e o.values reference).2)
  | settings : Request.AnsweredBy o .settings (.settings o.values, [])
  /-- The settings that an update leaves. -/
  | updated {values : List (String × Int)} (done : (o.update values).1 = .ok ()) :
    Request.AnsweredBy o (.update values) (.settings (o.update values).2.values, [])
  /-- What an update was refused for. -/
  | refused {values : List (String × Int)} {err : UpdateError}
    (refused : (o.update values).1 = .error err) :
    Request.AnsweredBy o (.update values) (.notUpdated err, [])

/-- An object leaves one answer. -/
theorem Request.AnsweredBy.unique {o : SettingsObject} {request : Request}
    {answer answer' : Logged Reply} (h : request.AnsweredBy o answer)
    (h' : request.AnsweredBy o answer') : answer = answer' := by
  cases h with
  | next read =>
    cases h' with
    | next read' =>
      rw [read] at read'
      cases read'
      rfl
  | settings =>
    cases h'
    rfl
  | updated done =>
    cases h' with
    | updated => rfl
    | refused refused =>
      rw [done] at refused
      cases refused
  | refused refused =>
    cases h' with
    | updated done =>
      rw [refused] at done
      cases done
    | refused refused' =>
      rw [refused] at refused'
      cases refused'
      rfl

theorem Request.IsUpdate.needsSettings {request : Request} (h : request.IsUpdate) :
    request.NeedsSettings := by
  cases request with
  | update => exact trivial
  | setVariable | parse | validate | describe | next | random | settings => exact h.elim

/-- The answer to a request tells whether an update is refused. -/
theorem Request.AnsweredBy.ne_notUpdated_iff {o : SettingsObject} {request : Request}
    {answer : Logged Reply} (h : request.AnsweredBy o answer) :
    (∀ err, answer.1 ≠ .notUpdated err) ↔
      (request.IsUpdate → (o.update request.values).1 = .ok ()) := by
  cases h with
  | next | settings => exact iff_of_true nofun False.elim
  | updated done => exact iff_of_true nofun fun _ => done
  | refused refused =>
    refine iff_of_false (fun h => h _ rfl) fun h => ?_
    rw [values, refused] at h
    cases h trivial

/-- Without an update the object stays as it is. -/
theorem SettingsObject.after_of_not_needsSettings {request : Request}
    (h : ¬ request.NeedsSettings) (o : SettingsObject) : o.after request = o := by
  cases request with
  | update => exact absurd trivial h
  | setVariable | parse | validate | describe | next | random | settings => rfl

/-! ## Updates -/

namespace SettingsObject

variable {o : SettingsObject} {request : Request} {requests : List Request}

/-- The object carries out every update in a row of requests. -/
def CarriesOut (o : SettingsObject) : List Request → Prop
  | [] => True
  | request :: rest =>
    (request.IsUpdate → (o.update request.values).1 = .ok ()) ∧ (o.after request).CarriesOut rest

/-- Whatever is not refused sets its values. -/
theorem after_eq_setAll (h : request.IsUpdate → (o.update request.values).1 = .ok ()) :
    o.after request = o.setAll request.values := by
  cases request with
  | update values =>
    obtain ⟨free, settable⟩ := fst_update_eq_ok_iff.1 (h trivial)
    exact congrArg Prod.snd (update_of_settable free settable)
  | setVariable | parse | validate | describe | next | random | settings => rfl

/-- A request is no update that is refused just if there is room for it and its values can be set. -/
theorem fst_update_values_iff :
    (request.IsUpdate → (o.update request.values).1 = .ok ()) ↔
      (o.Hides "update" → ¬request.IsUpdate) ∧ Settable request.values := by
  rw [fst_update_eq_ok_iff]
  cases request with
  | update values => simp [Request.IsUpdate]
  | setVariable | parse | validate | describe | next | random | settings =>
    exact iff_of_true False.elim ⟨fun _ => id, nofun⟩

/-- **Updates are carried out** just if they are undisturbed, by each other and from before. -/
theorem carriesOut_iff : o.CarriesOut requests ↔ Undisturbed requests ∧
    (o.Hides "update" → ∀ request ∈ requests, ¬request.IsUpdate) := by
  -- the second part carries the induction: the rest may meet an object that hides `update` by now
  induction requests generalizing o with
  | nil => simp [CarriesOut, Undisturbed]
  | cons request rest ih =>
    simp only [CarriesOut, Undisturbed, List.forall_mem_cons, List.pairwise_cons]
    rw [ih, Undisturbed]
    constructor
    · rintro ⟨hfirst, ⟨hsettable, hpairs⟩, hrest⟩
      rw [after_eq_setAll hfirst, hides_update_setAll] at hrest
      obtain ⟨hroom, hvalues⟩ := fst_update_values_iff.1 hfirst
      exact ⟨⟨⟨hvalues, hsettable⟩, fun r hr h => hrest (Or.inr h) r hr, hpairs⟩,
        fun hides => ⟨hroom hides, hrest (Or.inl hides)⟩⟩
    · rintro ⟨⟨⟨hvalues, hsettable⟩, hlater, hpairs⟩, hroom⟩
      have hfirst := fst_update_values_iff.2 ⟨fun hides => (hroom hides).1, hvalues⟩
      refine ⟨hfirst, ⟨hsettable, hpairs⟩, ?_⟩
      rw [after_eq_setAll hfirst, hides_update_setAll]
      rintro (hides | hmem)
      · exact (hroom hides).2
      · exact fun r hr => hlater r hr hmem

theorem carriesOut_ofSettings_iff (loaded : Settings) :
    (ofSettings loaded).CarriesOut requests ↔ Undisturbed requests := by
  rw [carriesOut_iff]
  exact and_iff_left fun hides => absurd hides (not_hides_ofSettings loaded "update")

/-- Updates that are carried out leave each setting the value given last for it. -/
theorem values_afterAll (h : o.CarriesOut requests) :
    (o.afterAll requests).values = o.values.overlay (requests.flatMap Request.values) := by
  induction requests generalizing o with
  | nil => rfl
  | cons request rest ih =>
    have hrest : (o.afterAll (request :: rest)).values =
        (o.after request).values.overlay (rest.flatMap Request.values) := ih h.2
    rw [hrest, after_eq_setAll h.1, values_setAll, List.flatMap_cons, Settings.overlay_append]

end SettingsObject

/-! ## Steps -/

namespace Session

variable {s : Session} {request : Request}

/-- A text that is no expression has no next instant, and nothing is loaded to say so. -/
theorem step_next_of_error {text : String} {err : Rejection} (h : Expression.read text = .error err)
    (s : Session) (reference : Instant) :
    s.step (.next text reference) = ((.occurrence none, [rejectionRecord text err]), s) := by
  rw [step, Planner.next_of_error h]
  rfl

/-- **No need for settings**: the answer is the same in every session and no refusal of an update,
and nothing but the environment may change. -/
theorem step_of_not_needsSettings (h : ¬ request.NeedsSettings) :
    (s.step request).2 = { s with environment := s.environment.after request } ∧
      (∀ s' : Session, (s'.step request).1 = (s.step request).1) ∧
      ∀ err, (s.step request).1.1 ≠ .notUpdated err := by
  cases request with
  | setVariable => exact ⟨rfl, fun _ => rfl, nofun⟩
  | parse text =>
    simp only [step]
    generalize Cron.parse text = reading
    exact ⟨rfl, fun _ => trivial, nofun⟩
  | validate text =>
    simp only [step]
    generalize Cron.validate text = reading
    exact ⟨rfl, fun _ => trivial, nofun⟩
  | describe text =>
    simp only [step]
    exact ⟨rfl, fun _ => trivial, nofun⟩
  | settings | update => exact absurd trivial h
  | next text reference =>
    cases hread : Expression.read text with
    | ok e => exact absurd ⟨e, hread⟩ h
    | error err =>
      simp only [step_next_of_error hread]
      exact ⟨rfl, fun _ => trivial, nofun⟩
  | random shape source =>
    simp only [step]
    cases Random.expressionOf shape with
    | ok choice => exact ⟨rfl, fun _ => rfl, nofun⟩
    | error err => exact ⟨rfl, fun _ => rfl, nofun⟩

/-- No request that needs settings touches the environment. -/
theorem after_of_needsSettings (h : request.NeedsSettings) (env : Environment) :
    env.after request = env := by
  cases request with
  | setVariable => exact h.elim
  | parse | validate | describe | next | random | settings | update => rfl

/-- Where no settings are to be had the session stays as it was. -/
theorem step_of_available_eq_error {err : LoadError} (h : s.planner.Shares)
    (needs : request.NeedsSettings) (hnone : s.planner.available s.environment = .error err) :
    s.step request = ((.notLoaded err, []), s) := by
  rcases Planner.load_cases h s.environment with ⟨err', hnone', hload⟩ | ⟨-, -, o, ho, -⟩
  · rw [hnone] at hnone'
    cases hnone'
    cases request with
    | setVariable | parse | validate | describe | random => exact needs.elim
    | next text reference =>
      obtain ⟨e, hread⟩ := needs
      rw [step, Planner.next_of_ok hread, h.loadSearch_eq_error hload]
      rfl
    | settings =>
      rw [step, hload]
      rfl
    | update values =>
      rw [step, Planner.update, hload]
      rfl
  · rw [hnone] at ho
    cases ho

/-- **A step on a settings object**: the request is answered by the object that is available, and
what it makes of the object is in use after it. -/
theorem step_of_available_eq_ok {o : SettingsObject} (h : s.planner.Shares)
    (needs : request.NeedsSettings) (ho : s.planner.available s.environment = .ok o) :
    request.AnsweredBy o (s.step request).1 ∧ ∃ p, (s.step request).2 = ⟨s.environment, p⟩ ∧
      p.overrides = s.planner.overrides ∧ p.Shares ∧ p.inUse = some (o.after request) := by
  rcases Planner.load_cases h s.environment with
    ⟨err, hnone, -⟩ | ⟨place, p, o', ho', hload, hkeeps, hoverrides⟩
  · rw [ho] at hnone
    cases hnone
  · rw [ho] at ho'
    cases ho'
    cases request with
    | setVariable | parse | validate | describe | random => exact needs.elim
    | next text reference =>
      obtain ⟨e, hread⟩ := needs
      rw [step, h.next_of_load hload hread, hkeeps.object_eq]
      exact ⟨.next hread reference, _, rfl, hoverrides, hkeeps.withSearch.shares,
        hkeeps.withSearch.inUse_eq⟩
    | settings =>
      rw [step, hload]
      simp only [Except.map, hkeeps.object_eq]
      exact ⟨.settings, p, rfl, hoverrides, hkeeps.shares, hkeeps.inUse_eq⟩
    | update values =>
      rw [step, Planner.update_of_load hload, hkeeps.object_eq]
      -- refused or not, the object is written back
      have hkept := hkeeps.write (o.update values).2
      refine ⟨?_, _, rfl, hoverrides, hkept.shares, hkept.inUse_eq⟩
      cases hresult : (o.update values).1 with
      | ok => exact .updated hresult
      | error err => exact .refused hresult

end Session

end Cron
