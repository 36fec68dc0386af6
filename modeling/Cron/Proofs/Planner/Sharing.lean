import Cron.Planner

/-! # A planner and its search share their settings

A planner keeps its settings and its search apart, and each refers to a settings object by its place
in memory. That both refer to the same one is an invariant, `Planner.Shares`: a search is made of the
settings at hand, and neither is ever replaced. So whatever is set through the settings of a planner
is what its search reads next, however long ago the search was made.

Main statements: `Planner.load_cases`, all that loading can do, and `Planner.Shares.next_after_update`.
-/

namespace Cron.Planner

open Calendar

variable {p p' : Planner} {env : Environment} {place : Nat} {o o' : SettingsObject}

/-- The settings object in use, once there is one. -/
def inUse (p : Planner) : Option SettingsObject :=
  p.settings.map p.object

/-- The settings object in use, or else the one that the environment and the overrides make. -/
def available (p : Planner) (env : Environment) : Except LoadError SettingsObject :=
  match p.inUse with
  | some o => .ok o
  | none => (Settings.load env p.overrides).map SettingsObject.ofSettings

theorem available_of_inUse (h : p.inUse = some o) (env : Environment) : p.available env = .ok o := by
  rw [available, h]

theorem available_of_inUse_eq_none (h : p.inUse = none) (env : Environment) :
    p.available env = (Settings.load env p.overrides).map SettingsObject.ofSettings := by
  rw [available, h]

/-- **Invariant**: the settings lie in memory, and the search reads its bounds from them. -/
structure Shares (p : Planner) : Prop where
  settings_lt : ∀ place, p.settings = some place → place < p.objects.length
  search_eq : ∀ place, p.search = some place → p.settings = some place

theorem shares_ofOverrides (overrides : List (String × Int)) : (ofOverrides overrides).Shares where
  settings_lt := nofun
  search_eq := nofun

/-- The planner has the object at the place for its settings. -/
structure Keeps (p : Planner) (place : Nat) (o : SettingsObject) : Prop where
  shares : p.Shares
  settings_eq : p.settings = some place
  object_eq : p.object place = o

namespace Keeps

theorem inUse_eq (h : p.Keeps place o) : p.inUse = some o := by
  rw [inUse, h.settings_eq, Option.map_some, h.object_eq]

/-- A search that is made of the settings reads its bounds from them. -/
theorem withSearch (h : p.Keeps place o) : { p with search := some place }.Keeps place o where
  shares := ⟨h.shares.settings_lt, fun _ hsearch => hsearch ▸ h.settings_eq⟩
  settings_eq := h.settings_eq
  object_eq := h.object_eq

/-- An object that is written to its place is found there. -/
theorem write (h : p.Keeps place o) (o' : SettingsObject) :
    { p with objects := p.objects.set place o' }.Keeps place o' where
  shares := by
    refine ⟨fun other hother => ?_, h.shares.search_eq⟩
    rw [List.length_set]
    exact h.shares.settings_lt other hother
  settings_eq := h.settings_eq
  object_eq := by
    have hlt := h.shares.settings_lt place h.settings_eq
    simp [object, hlt]

end Keeps

/-! ## Loading -/

theorem load_of_settings (h : p.settings = some place) (env : Environment) :
    p.load env = .ok (place, p) := by
  rw [load, h]

/-- **All that loading can do**: fail with what is wrong, or keep the object that is available. -/
theorem load_cases (h : p.Shares) (env : Environment) :
    (∃ err, p.available env = .error err ∧ p.load env = .error err) ∨
    ∃ place p' o, p.available env = .ok o ∧ p.load env = .ok (place, p') ∧ p'.Keeps place o ∧
      p'.overrides = p.overrides := by
  cases hsettings : p.settings with
  | some place =>
    have hkeeps : p.Keeps place (p.object place) := ⟨h, hsettings, rfl⟩
    exact Or.inr ⟨place, p, _, available_of_inUse hkeeps.inUse_eq env,
      load_of_settings hsettings env, hkeeps, rfl⟩
  | none =>
    have hnone : p.inUse = none := by rw [inUse, hsettings, Option.map_none]
    rw [available_of_inUse_eq_none hnone]
    cases hload : Settings.load env p.overrides with
    | error err =>
      refine Or.inl ⟨err, rfl, ?_⟩
      rw [load, hsettings, hload]
      rfl
    | ok settings =>
      refine Or.inr ⟨p.objects.length, { p with
        objects := p.objects ++ [.ofSettings settings]
        settings := some p.objects.length }, .ofSettings settings, rfl, ?_, ⟨⟨?_, ?_⟩, rfl, ?_⟩, rfl⟩
      · rw [load, hsettings, hload]
        rfl
      · rintro place hplace
        cases hplace
        rw [List.length_append]
        exact Nat.lt_succ_self _
      · intro place hsearch
        have hplace := h.search_eq place hsearch
        rw [hsettings] at hplace
        cases hplace
      · simp [object]

/-- A search can be had where the settings can, and reads its bounds from them. -/
theorem Shares.loadSearch_eq_ok (h : p.Shares) (hload : p.load env = .ok (place, p')) :
    p.loadSearch env = .ok (place, { p' with search := some place }) := by
  obtain ⟨overrides, objects, settings, search⟩ := p
  cases search with
  | none =>
    rw [loadSearch, hload]
    rfl
  | some searched =>
    rw [load_of_settings (h.search_eq searched rfl) env] at hload
    cases hload
    rfl

theorem Shares.loadSearch_eq_error (h : p.Shares) {err : LoadError}
    (hload : p.load env = .error err) : p.loadSearch env = .error err := by
  rw [loadSearch]
  cases hsearch : p.search with
  | none =>
    rw [hload]
    rfl
  | some searched =>
    rw [load_of_settings (h.search_eq searched hsearch) env] at hload
    cases hload

theorem Shares.next_of_load (h : p.Shares) (hload : p.load env = .ok (place, p')) {text : String}
    {e : Expression} (hread : Expression.read text = .ok e) (reference : Instant) :
    p.next env text reference = .ok (Search.next e (p'.object place).values reference,
      { p' with search := some place }) := by
  rw [next_of_ok hread, h.loadSearch_eq_ok hload]
  rfl

/-! ## Updates -/

theorem update_of_load (hload : p.load env = .ok (place, p')) (values : List (String × Int)) :
    p.update env values = .ok
      (((p'.object place).update values).1.map fun () => ((p'.object place).update values).2.values,
        { p' with objects := p'.objects.set place ((p'.object place).update values).2 }) := by
  rw [update, hload]
  rfl

/-- **The search sees every update**, whenever it was made: the next search runs within the bounds
that the update leaves, be it refused or not. -/
theorem Shares.next_after_update (h : p.Shares) {values : List (String × Int)}
    {result : Except UpdateError Settings} (hupdate : p.update env values = .ok (result, p'))
    {text : String} {e : Expression} (hread : Expression.read text = .ok e) (env' : Environment)
    (reference : Instant) :
    ∃ o, p.available env = .ok o ∧ (p'.next env' text reference).map Prod.fst =
      .ok (Search.next e (o.update values).2.values reference) := by
  rcases load_cases h env with ⟨err, -, hfail⟩ | ⟨place, loaded, o, ho, hload, hkeeps, -⟩
  · rw [update, hfail] at hupdate
    cases hupdate
  · rw [update_of_load hload, hkeeps.object_eq] at hupdate
    cases hupdate
    have hkept := hkeeps.write (o.update values).2
    refine ⟨o, ho, ?_⟩
    rw [hkept.shares.next_of_load (load_of_settings hkept.settings_eq env') hread, hkept.object_eq]
    rfl

end Cron.Planner
