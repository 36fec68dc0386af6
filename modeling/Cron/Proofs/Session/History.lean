import Cron.Calendar.Iso
import Cron.Proofs.Session.Requests
import Mathlib.Data.List.Induction

/-! # The life of a session

What a session answers depends on the requests before only through the environment and the settings
object in use. The object comes late: it is loaded for the first request that needs settings and finds
an environment from which they can be loaded, and until then every such request fails and is
forgotten. From then on the environment is looked at no more, and only updates have a say, as far as
the object accepts them.

Histories are told here by the requests alone. A step keeps the session in line with the history,
and so does a run.

Main statements: `Session.ne_notUpdated_run_iff`, `Session.InLine.step`, `Session.inLine_after` and
`life_cycle`.
-/

namespace Cron

open Calendar

/-! ## Histories -/

/-- The environment after a row of requests. -/
def Environment.afterAll (env : Environment) (history : List Request) : Environment :=
  history.foldl after env

/-- **Never loaded**: every request that needed settings failed to load them in the environment of
its moment. -/
def NeverLoaded (env : Environment) (overrides : List (String × Int)) (history : List Request) :
    Prop :=
  ∀ earlier request later, history = earlier ++ request :: later → request.NeedsSettings →
    ∃ err, Settings.load (env.afterAll earlier) overrides = .error err

/-- **Loaded**: some request needed settings, could load them when none had before, and the object
that was made of them has been through that request and those since then. -/
inductive LoadedBy (env : Environment) (overrides : List (String × Int)) :
    List Request → SettingsObject → Prop
  | intro {earlier later : List Request} {request : Request} {loaded : Settings}
    {current : SettingsObject} (never : NeverLoaded env overrides earlier)
    (needs : request.NeedsSettings)
    (load : Settings.load (env.afterAll earlier) overrides = .ok loaded)
    (eq : current = (SettingsObject.ofSettings loaded).afterAll (request :: later)) :
    LoadedBy env overrides (earlier ++ request :: later) current

/-- The session after a row of requests. -/
def Session.after (env : Environment) (overrides : List (String × Int)) (history : List Request) :
    Session :=
  ((Session.start env overrides).run history).2

section history

variable {env : Environment} {overrides : List (String × Int)} {history : List Request}
  {request : Request} {current : SettingsObject}

/-! ### One more request -/

/-- A split of a history with one more request is at that request or a split of the history. -/
theorem append_singleton_eq_append_cons_iff {α : Type} {xs ys zs : List α} {x y : α} :
    xs ++ [x] = ys ++ y :: zs ↔
      (xs = ys ∧ x = y ∧ zs = []) ∨ ∃ ws, zs = ws ++ [x] ∧ xs = ys ++ y :: ws := by
  constructor
  · intro h
    rcases List.eq_nil_or_concat zs with rfl | ⟨ws, z, rfl⟩
    · obtain ⟨rfl, hxy⟩ := List.append_inj' h rfl
      exact Or.inl ⟨rfl, List.head_eq_of_cons_eq hxy, rfl⟩
    · rw [List.concat_eq_append, ← List.cons_append, ← List.append_assoc] at h
      obtain ⟨rfl, hxz⟩ := List.append_inj' h rfl
      obtain rfl := List.head_eq_of_cons_eq hxz
      exact Or.inr ⟨ws, List.concat_eq_append, rfl⟩
  · rintro (⟨rfl, rfl, rfl⟩ | ⟨ws, rfl, rfl⟩)
    · rfl
    · rw [List.append_assoc, List.cons_append]

theorem Environment.afterAll_append_singleton :
    env.afterAll (history ++ [request]) = (env.afterAll history).after request := by
  rw [afterAll, List.foldl_append]
  rfl

theorem neverLoaded_append_singleton_iff :
    NeverLoaded env overrides (history ++ [request]) ↔ NeverLoaded env overrides history ∧
      (request.NeedsSettings →
        ∃ err, Settings.load (env.afterAll history) overrides = .error err) := by
  constructor
  · intro h
    refine ⟨?_, h history request [] rfl⟩
    rintro earlier r later rfl
    exact h earlier r (later ++ [request]) (by rw [List.append_assoc, List.cons_append])
  · rintro ⟨hnever, hlast⟩ earlier r later hsplit
    rcases append_singleton_eq_append_cons_iff.1 hsplit with ⟨rfl, rfl, -⟩ | ⟨later, -, hsplit⟩
    · exact hlast
    · exact hnever earlier r later hsplit

theorem SettingsObject.afterAll_append_singleton (o : SettingsObject) (history : List Request)
    (request : Request) :
    o.afterAll (history ++ [request]) = (o.afterAll history).after request := by
  rw [afterAll, List.foldl_append]
  rfl

theorem loadedBy_append_singleton_iff :
    LoadedBy env overrides (history ++ [request]) current ↔
      (∃ o, LoadedBy env overrides history o ∧ current = o.after request) ∨
      (NeverLoaded env overrides history ∧ request.NeedsSettings ∧
        ∃ loaded, Settings.load (env.afterAll history) overrides = .ok loaded ∧
          current = (SettingsObject.ofSettings loaded).after request) := by
  constructor
  · intro h
    generalize hsplit : history ++ [request] = whole at h
    cases h with
    | @intro earlier later first loaded _ never needs load eq =>
      rcases append_singleton_eq_append_cons_iff.1 hsplit with
        ⟨rfl, rfl, rfl⟩ | ⟨later, rfl, rfl⟩
      · exact Or.inr ⟨never, needs, loaded, load, eq⟩
      · refine Or.inl ⟨_, .intro never needs load rfl, ?_⟩
        rw [eq, ← List.cons_append, SettingsObject.afterAll_append_singleton]
  · rintro (⟨o, h, rfl⟩ | ⟨never, needs, loaded, load, rfl⟩)
    · cases h with
      | @intro earlier later first loaded _ never needs load eq =>
        rw [List.append_assoc, List.cons_append]
        refine .intro never needs load ?_
        rw [eq, ← List.cons_append, SettingsObject.afterAll_append_singleton]
    · exact .intro never needs load rfl

theorem LoadedBy.not_neverLoaded (h : LoadedBy env overrides history current) :
    ¬ NeverLoaded env overrides history := by
  intro hnever
  cases h with
  | intro _ needs load =>
    obtain ⟨err, herr⟩ := hnever _ _ _ rfl needs
    rw [load] at herr
    cases herr

end history

/-! ## Many requests -/

namespace Session

variable {env : Environment} {overrides : List (String × Int)} {history : List Request}

theorem run_append (s : Session) (before rest : List Request) :
    s.run (before ++ rest) =
      ((s.run before).1 ++ ((s.run before).2.run rest).1, ((s.run before).2.run rest).2) := by
  induction before generalizing s with
  | nil => rfl
  | cons request before ih => simp only [List.cons_append, run, ih]

theorem length_run (s : Session) (requests : List Request) :
    (s.run requests).1.length = requests.length := by
  induction requests generalizing s with
  | nil => rfl
  | cons request rest ih => simp only [run, List.length_cons, ih]

/-- Each request of a run is answered by the session that the requests before it leave. -/
theorem getElem?_run (s : Session) (before : List Request) (request : Request)
    (rest : List Request) :
    (s.run (before ++ request :: rest)).1[before.length]? =
      some ((s.run before).2.step request).1 := by
  rw [run_append, ← length_run s before, List.getElem?_append_right (Nat.le_refl _), Nat.sub_self]
  rfl

/-! ### Refusals -/

/-- **No update is refused** in a run just if the object that is available carries out all of them,
where it is in use already or the first request loads it. -/
theorem ne_notUpdated_run_iff {s : Session} {o : SettingsObject} {requests : List Request}
    (h : s.planner.Shares) (ho : s.planner.available s.environment = .ok o)
    (first : ∀ request ∈ requests.head?, s.planner.inUse = none → request.NeedsSettings) :
    (∀ reply ∈ (s.run requests).1, ∀ err, reply.1 ≠ .notUpdated err) ↔ o.CarriesOut requests := by
  induction requests generalizing s o with
  | nil => exact iff_of_true (List.forall_mem_nil _) trivial
  | cons request rest ih =>
    simp only [run, List.forall_mem_cons, SettingsObject.CarriesOut]
    by_cases needs : request.NeedsSettings
    · obtain ⟨hanswer, p, hstep, -, hshares, hinUse⟩ := step_of_available_eq_ok h needs ho
      rw [hanswer.ne_notUpdated_iff, hstep]
      refine and_congr_right fun _ => ih hshares (Planner.available_of_inUse hinUse _) ?_
      exact fun _ _ hnone => absurd (hinUse.symm.trans hnone) (Option.some_ne_none _)
    · -- the object is in use, or else the first request would load it
      obtain ⟨hstep, -, hanswer⟩ := step_of_not_needsSettings (s := s) needs
      have hdone : request.IsUpdate → (o.update request.values).1 = .ok () :=
        fun hupdate => absurd hupdate.needsSettings needs
      rw [and_iff_right hanswer, and_iff_right hdone, hstep,
        SettingsObject.after_of_not_needsSettings needs]
      cases hinUse : s.planner.inUse with
      | none => exact absurd (first request rfl hinUse) needs
      | some current =>
        rw [Planner.available_of_inUse hinUse] at ho
        cases ho
        refine ih h (Planner.available_of_inUse hinUse _) ?_
        exact fun _ _ hnone => absurd (hinUse.symm.trans hnone) (Option.some_ne_none _)

/-! ### In line with the history -/

/-- A session that is what its history makes of it. -/
structure InLine (env : Environment) (overrides : List (String × Int)) (history : List Request)
    (s : Session) : Prop where
  environment_eq : s.environment = env.afterAll history
  overrides_eq : s.planner.overrides = overrides
  shares : s.planner.Shares
  inUse_eq_none_iff : s.planner.inUse = none ↔ NeverLoaded env overrides history
  inUse_eq_some_iff : ∀ o, s.planner.inUse = some o ↔ LoadedBy env overrides history o

theorem inLine_start : InLine env overrides [] (start env overrides) where
  environment_eq := rfl
  overrides_eq := rfl
  shares := Planner.shares_ofOverrides overrides
  inUse_eq_none_iff := by
    refine iff_of_true rfl ?_
    intro earlier request later hsplit
    exact absurd hsplit.symm (List.append_ne_nil_of_right_ne_nil _ (List.cons_ne_nil _ _))
  inUse_eq_some_iff o := by
    refine iff_of_false nofun fun h => ?_
    generalize hsplit : ([] : List Request) = whole at h
    cases h with
    | intro =>
      exact absurd hsplit.symm (List.append_ne_nil_of_right_ne_nil _ (List.cons_ne_nil _ _))

namespace InLine

variable {s : Session} {request : Request}

theorem environment_after (h : InLine env overrides history s) (request : Request) :
    s.environment.after request = env.afterAll (history ++ [request]) := by
  rw [Environment.afterAll_append_singleton, h.environment_eq]

theorem step_of_not_needsSettings (h : InLine env overrides history s)
    (needs : ¬ request.NeedsSettings) :
    InLine env overrides (history ++ [request]) (s.step request).2 := by
  obtain ⟨hstep, -⟩ := Session.step_of_not_needsSettings (s := s) needs
  rw [hstep]
  refine ⟨h.environment_after request, h.overrides_eq, h.shares, ?_, fun o => ?_⟩
  · rw [neverLoaded_append_singleton_iff, h.inUse_eq_none_iff]
    exact ⟨fun h => ⟨h, fun h' => absurd h' needs⟩, fun h => h.1⟩
  · simp only [loadedBy_append_singleton_iff, h.inUse_eq_some_iff,
      SettingsObject.after_of_not_needsSettings needs]
    constructor
    · intro h
      exact Or.inl ⟨o, h, rfl⟩
    · rintro (⟨o', h, rfl⟩ | ⟨-, h, -⟩)
      · exact h
      · exact absurd h needs

/-- The object that is available is the one in use or the one to be loaded. -/
theorem available_eq_ok_iff (h : InLine env overrides history s) {o : SettingsObject} :
    s.planner.available s.environment = .ok o ↔ LoadedBy env overrides history o ∨
      NeverLoaded env overrides history ∧
        ∃ loaded, Settings.load (env.afterAll history) overrides = .ok loaded ∧
          o = .ofSettings loaded := by
  simp only [← h.inUse_eq_some_iff, ← h.inUse_eq_none_iff]
  cases hinUse : s.planner.inUse with
  | some current => simp [Planner.available_of_inUse hinUse]
  | none =>
    rw [Planner.available_of_inUse_eq_none hinUse, h.environment_eq, h.overrides_eq]
    cases Settings.load (env.afterAll history) overrides with
    | error err => simp [Except.map]
    | ok loaded => simp [Except.map, eq_comm]

theorem available_eq_error_iff (h : InLine env overrides history s) {err : LoadError} :
    s.planner.available s.environment = .error err ↔ NeverLoaded env overrides history ∧
      Settings.load (env.afterAll history) overrides = .error err := by
  rw [← h.inUse_eq_none_iff]
  cases hinUse : s.planner.inUse with
  | some current => simp [Planner.available_of_inUse hinUse]
  | none =>
    rw [Planner.available_of_inUse_eq_none hinUse, h.environment_eq, h.overrides_eq]
    cases Settings.load (env.afterAll history) overrides <;> simp [Except.map]

/-- A request that finds no settings to be had leaves the session as it was. -/
theorem append_failed {err : LoadError} (h : InLine env overrides history s)
    (needs : request.NeedsSettings)
    (hnone : s.planner.available s.environment = .error err) :
    InLine env overrides (history ++ [request]) s := by
  obtain ⟨hnever, hload⟩ := h.available_eq_error_iff.1 hnone
  refine ⟨?_, h.overrides_eq, h.shares, ?_, fun o => ?_⟩
  · rw [← h.environment_after, after_of_needsSettings needs]
  · rw [neverLoaded_append_singleton_iff]
    exact iff_of_true (h.inUse_eq_none_iff.2 hnever) ⟨hnever, fun _ => ⟨err, hload⟩⟩
  · rw [loadedBy_append_singleton_iff, h.inUse_eq_none_iff.2 hnever]
    refine iff_of_false nofun ?_
    rintro (⟨o', h, -⟩ | ⟨-, -, loaded, hok, -⟩)
    · exact h.not_neverLoaded hnever
    · rw [hload] at hok
      cases hok

/-- The object that is available goes through the request and is in use from then on. -/
theorem append_loaded {p : Planner} {o : SettingsObject} (h : InLine env overrides history s)
    (needs : request.NeedsSettings) (ho : s.planner.available s.environment = .ok o)
    (hoverrides : p.overrides = s.planner.overrides) (hshares : p.Shares)
    (hinUse : p.inUse = some (o.after request)) :
    InLine env overrides (history ++ [request]) ⟨s.environment, p⟩ := by
  have hloaded : ∀ current, LoadedBy env overrides (history ++ [request]) current ↔
      current = o.after request := by
    intro current
    have hfound : ∀ o', LoadedBy env overrides history o' ∨ NeverLoaded env overrides history ∧
        (∃ loaded, Settings.load (env.afterAll history) overrides = .ok loaded ∧
          o' = .ofSettings loaded) ↔ o' = o := by
      intro o'
      rw [← h.available_eq_ok_iff, ho, Except.ok.injEq, eq_comm]
    rw [loadedBy_append_singleton_iff]
    constructor
    · rintro (⟨o', hbefore, rfl⟩ | ⟨hnever, -, loaded, hload, rfl⟩)
      · rw [(hfound o').1 (Or.inl hbefore)]
      · rw [(hfound _).1 (Or.inr ⟨hnever, loaded, hload, rfl⟩)]
    · rintro rfl
      rcases (hfound o).2 rfl with hbefore | ⟨hnever, loaded, hload, rfl⟩
      · exact Or.inl ⟨o, hbefore, rfl⟩
      · exact Or.inr ⟨hnever, needs, loaded, hload, rfl⟩
  refine ⟨?_, hoverrides.trans h.overrides_eq, hshares, ?_, fun current => ?_⟩
  · rw [← h.environment_after, after_of_needsSettings needs]
  · rw [hinUse]
    exact iff_of_false nofun ((hloaded _).2 rfl).not_neverLoaded
  · rw [hloaded, hinUse, Option.some.injEq, eq_comm]

/-- **A step keeps in line.** -/
theorem step (h : InLine env overrides history s) (request : Request) :
    InLine env overrides (history ++ [request]) (s.step request).2 := by
  by_cases needs : request.NeedsSettings
  · cases ho : s.planner.available s.environment with
    | error err =>
      rw [step_of_available_eq_error h.shares needs ho]
      exact h.append_failed needs ho
    | ok o =>
      obtain ⟨-, p, hstep, hoverrides, hshares, hinUse⟩ := step_of_available_eq_ok h.shares needs ho
      rw [hstep]
      exact h.append_loaded needs ho hoverrides hshares hinUse
  · exact h.step_of_not_needsSettings needs

end InLine

/-- **A run keeps in line.** -/
theorem inLine_after : InLine env overrides history (after env overrides history) := by
  induction history using List.reverseRecOn with
  | nil => exact inLine_start
  | append_singleton history request ih =>
    rw [after, run_append]
    exact ih.step request

/-! ### Out of the environment -/

/-- With the same object in use the environment makes no difference, however the object came to be
in use. -/
theorem fst_run_congr {s s' : Session} {o : SettingsObject} (requests : List Request)
    (h : s.planner.Shares) (ho : s.planner.inUse = some o) (h' : s'.planner.Shares)
    (ho' : s'.planner.inUse = some o) : (s'.run requests).1 = (s.run requests).1 := by
  induction requests generalizing s s' o with
  | nil => rfl
  | cons request rest ih =>
    simp only [run]
    by_cases needs : request.NeedsSettings
    · obtain ⟨hanswer, p, hstep, -, hshares, hinUse⟩ :=
        step_of_available_eq_ok h needs (Planner.available_of_inUse ho s.environment)
      obtain ⟨hanswer', p', hstep', -, hshares', hinUse'⟩ :=
        step_of_available_eq_ok h' needs (Planner.available_of_inUse ho' s'.environment)
      have hrest : (run ⟨s'.environment, p'⟩ rest).1 = (run ⟨s.environment, p⟩ rest).1 :=
        ih hshares hinUse hshares' hinUse'
      rw [hanswer'.unique hanswer, hstep, hstep', hrest]
    · obtain ⟨hstep, hanswer, -⟩ := step_of_not_needsSettings (s := s) needs
      obtain ⟨hstep', -⟩ := step_of_not_needsSettings (s := s') needs
      rw [hanswer s', hstep, hstep']
      exact congrArg _ (ih h ho h' ho')

end Session

/-! ## The life of a session -/

/-- **The life of a session**, whatever it is asked. Its answers are those of its steps, each from
the state that the requests before leave. A request that needs no settings is answered alike in
every session and leaves the planner as it was, and a text that is no expression has no next
instant. A session has no settings just as long as they have never been loaded; until then a request
that needs them is answered with what is wrong with the environment of the moment or the overrides,
and leaves no trace. As soon as they have been loaded, the object in use is what the requests since
then have made of it; the search, once there is one, reads its bounds from the same object, every
request that needs settings is answered by it, and no answer hangs on the environment any more. No
update is refused just if they are undisturbed, and then each setting has the value given last for it,
or the one that was loaded. -/
theorem life_cycle (env : Environment) (overrides : List (String × Int)) (before : List Request) :
    let s := Session.after env overrides before
    (∀ (request : Request) (rest : List Request),
      ((Session.start env overrides).run (before ++ request :: rest)).1[before.length]? =
        some (s.step request).1) ∧
    (∀ request : Request, ¬ request.NeedsSettings → (s.step request).2.planner = s.planner ∧
      ∀ s' : Session, (s'.step request).1 = (s.step request).1) ∧
    (∀ (text : String) (reference : Instant) (err : Rejection), Expression.read text = .error err →
      s.step (.next text reference) = ((.occurrence none, [rejectionRecord text err]), s)) ∧
    (s.planner.settings = none ↔ NeverLoaded env overrides before) ∧
    (∀ (request : Request) (err : LoadError), request.NeedsSettings →
      NeverLoaded env overrides before →
      Settings.load (env.afterAll before) overrides = .error err →
      s.step request = ((.notLoaded err, []), s)) ∧
    (∀ o, s.planner.inUse = some o ↔ LoadedBy env overrides before o) ∧
    (∀ place, s.planner.search = some place → s.planner.settings = some place) ∧
    (∀ (request : Request) (o : SettingsObject), request.NeedsSettings →
      (LoadedBy env overrides before o ∨ NeverLoaded env overrides before ∧
        ∃ loaded, Settings.load (env.afterAll before) overrides = .ok loaded ∧
          o = .ofSettings loaded) →
      request.AnsweredBy o (s.step request).1) ∧
    (∀ o, LoadedBy env overrides before o → ∀ (env' : Environment) (rest : List Request),
      ({ s with environment := env' }.run rest).1 = (s.run rest).1) ∧
    ∀ (earlier later : List Request) (request : Request) (loaded : Settings),
      before = earlier ++ request :: later → NeverLoaded env overrides earlier →
      request.NeedsSettings → Settings.load (env.afterAll earlier) overrides = .ok loaded →
      ((∀ reply ∈ ((Session.after env overrides earlier).run (request :: later)).1,
          ∀ err, reply.1 ≠ .notUpdated err) ↔ Undisturbed (request :: later)) ∧
      (Undisturbed (request :: later) → ∀ o, s.planner.inUse = some o → ∀ n, o.values.get n =
        (((request :: later).flatMap Request.values).reverse.lookup n.key).getD
          (loaded.get n)) := by
  intro s
  have hline : s.InLine env overrides before := Session.inLine_after
  refine ⟨fun request rest => Session.getElem?_run _ before request rest, ?idle,
    fun text reference err hread => Session.step_next_of_error hread s reference, ?unloaded,
    ?failed, hline.inUse_eq_some_iff, hline.shares.search_eq, ?answered, ?environment, ?updates⟩
  case idle =>
    intro request needs
    obtain ⟨hstep, hanswer, -⟩ := Session.step_of_not_needsSettings (s := s) needs
    rw [hstep]
    exact ⟨rfl, hanswer⟩
  case unloaded => rw [← hline.inUse_eq_none_iff, Planner.inUse, Option.map_eq_none_iff]
  case failed =>
    intro request err needs hnever hload
    exact Session.step_of_available_eq_error hline.shares needs
      (hline.available_eq_error_iff.2 ⟨hnever, hload⟩)
  case answered =>
    intro request o needs ho
    exact (Session.step_of_available_eq_ok hline.shares needs
      (hline.available_eq_ok_iff.2 ho)).1
  case environment =>
    intro o hloaded env' rest
    have ho := (hline.inUse_eq_some_iff o).2 hloaded
    exact Session.fst_run_congr rest hline.shares ho hline.shares ho
  case updates =>
    intro earlier later request loaded hsplit never needs load
    subst hsplit
    rw [← SettingsObject.carriesOut_ofSettings_iff loaded]
    constructor
    · have hearlier : (Session.after env overrides earlier).InLine env overrides earlier :=
        Session.inLine_after
      have havailable := hearlier.available_eq_ok_iff.2 (Or.inr ⟨never, loaded, load, rfl⟩)
      exact Session.ne_notUpdated_run_iff hearlier.shares havailable fun r hr _ =>
        Option.mem_some_iff.1 hr ▸ needs
    · intro hcarries o ho n
      have hloaded : LoadedBy env overrides (earlier ++ request :: later) _ :=
        .intro never needs load rfl
      rw [(hline.inUse_eq_some_iff _).2 hloaded] at ho
      cases ho
      rw [SettingsObject.values_afterAll hcarries, Settings.get_overlay]
      rfl

/-- A variable holds no number at first and is put right later, so the search is the first to load
settings. What is set after it does not count, and of what is updated the last value for each key
does. -/
theorem life_cycle_variable_put_right :
    ∃ (r : Instant) (err : Rejection) (overrides : List (String × Int))
      (failing loading : List Request) (o : SettingsObject),
      Instant.ofString? "2025-03-01T00:00:00" = some r ∧
      Expression.read "0 0 30 2 61" = .error err ∧
      overrides = [("max_iterations", 50)] ∧
      failing = [.setVariable "CRONSIGHT_HORIZON_YEARS" (some "soon"), .settings] ∧
      loading = failing ++ .setVariable "CRONSIGHT_HORIZON_YEARS" (some "4") ::
        [.next "0 0 29 2 *" r, .setVariable "CRONSIGHT_HORIZON_YEARS" (some "soon"),
          .update [("horizon_years", 9), ("depth", 1), ("horizon_years", -1)]] ∧
      (¬ (Request.parse "@daily").NeedsSettings ∧
        ((Session.after .empty overrides failing).step (.parse "@daily")).2.planner =
          (Session.after .empty overrides failing).planner) ∧
      (Session.after .empty overrides failing).step (.next "0 0 30 2 61" r) =
        ((.occurrence none, [rejectionRecord "0 0 30 2 61" err]),
          Session.after .empty overrides failing) ∧
      NeverLoaded .empty overrides failing ∧
      (Session.after .empty overrides failing).step (.update []) =
        ((.notLoaded (.badVariable ⟨.horizonYears, "soon"⟩), []),
          Session.after .empty overrides failing) ∧
      (o.values = ⟨-1, 50⟩ ∧ LoadedBy .empty overrides loading o) ∧
      Request.settings.AnsweredBy o ((Session.after .empty overrides loading).step .settings).1 ∧
      ({ Session.after .empty overrides loading with environment := .empty }.run
          [.next "@daily" r]).1 =
        ((Session.after .empty overrides loading).run [.next "@daily" r]).1 := by
  obtain ⟨r, hr⟩ : ∃ r, Instant.ofString? "2025-03-01T00:00:00" = some r := ⟨_, rfl⟩
  obtain ⟨err, hread⟩ : ∃ err, Expression.read "0 0 30 2 61" = .error err := ⟨_, rfl⟩
  obtain ⟨e, hleap⟩ : ∃ e, Expression.read "0 0 29 2 *" = .ok e := ⟨_, rfl⟩
  let failing : List Request := [.setVariable "CRONSIGHT_HORIZON_YEARS" (some "soon"), .settings]
  let idle : List Request := failing ++ [.setVariable "CRONSIGHT_HORIZON_YEARS" (some "4")]
  let later : List Request := [.setVariable "CRONSIGHT_HORIZON_YEARS" (some "soon"),
    .update [("horizon_years", 9), ("depth", 1), ("horizon_years", -1)]]
  obtain ⟨-, hidle, hrejected, hnever, hfailed, -⟩ :=
    life_cycle .empty [("max_iterations", 50)] failing
  obtain ⟨-, -, -, hnever', -⟩ := life_cycle .empty [("max_iterations", 50)] idle
  obtain ⟨-, -, -, -, -, hloaded, -, hanswered, henvironment, hupdates⟩ :=
    life_cycle .empty [("max_iterations", 50)] (idle ++ .next "0 0 29 2 *" r :: later)
  have hfailing : NeverLoaded .empty [("max_iterations", 50)] failing := hnever.1 rfl
  have hloading : LoadedBy .empty [("max_iterations", 50)]
      (idle ++ .next "0 0 29 2 *" r :: later) _ :=
    .intro (hnever'.1 rfl) ⟨e, hleap⟩ rfl rfl
  have hundisturbed : Undisturbed (.next "0 0 29 2 *" r :: later) := of_decide_eq_true rfl
  have hvalue := (hupdates idle later (.next "0 0 29 2 *" r) _ rfl (hnever'.1 rfl) ⟨e, hleap⟩
    rfl).2 hundisturbed _ ((hloaded _).2 hloading)
  exact ⟨r, err, _, failing, _, _, hr, hread, rfl, rfl, rfl, ⟨id, (hidle _ id).1⟩,
    hrejected _ _ _ hread, hfailing, hfailed _ _ trivial hfailing rfl,
    ⟨Settings.ext_get fun n => (hvalue n).trans (by cases n <;> rfl), hloading⟩,
    hanswered _ _ trivial (Or.inl hloading), henvironment _ hloading _ _⟩

/-- A value for `update` is accepted as an update, and the settings stay what they are from then
on. -/
theorem life_cycle_update_hidden :
    ((Session.start .empty []).run
      [.update [("update", 5)], .update [("horizon_years", 9)], .settings]).1 =
    [(.settings ⟨2, 2000000⟩, []), (.notUpdated .hidden, []), (.settings ⟨2, 2000000⟩, [])] :=
  rfl

end Cron
