/-! # Settings

Two numbers bound the search for an occurrence: how many years past the first one it may visit, and
how many steps it may take. Any integer may be given for either.

Values are laid over settings by name. Main statements: `get_set_self`, `get_set_of_ne`, and
`get_overlay` and `overlay_append` for a row of values.
-/

namespace Cron

/-! ## Names -/

/-- The names of the settings. -/
inductive SettingName where
  | horizonYears
  | maxSteps
  deriving DecidableEq

namespace SettingName

/-- All names, in the order they are looked up. -/
def all : List SettingName := [horizonYears, maxSteps]

/-- The key of a setting. -/
def key : SettingName → String
  | horizonYears => "horizon_years"
  | maxSteps => "max_iterations"

/-- The environment variable of a setting. -/
def variableName : SettingName → String
  | horizonYears => "CRONSIGHT_HORIZON_YEARS"
  | maxSteps => "CRONSIGHT_MAX_ITERATIONS"

/-- The setting of a key, where there is one. -/
def ofKey? (key : String) : Option SettingName :=
  all.find? fun n => n.key == key

@[simp] theorem ofKey?_key (n : SettingName) : ofKey? n.key = some n := by
  cases n <;> rfl

theorem ofKey?_eq_some_iff {key : String} {n : SettingName} :
    ofKey? key = some n ↔ n.key = key := by
  constructor
  · intro h
    unfold ofKey? at h
    have hkey := List.find?_some h
    exact eq_of_beq hkey
  · rintro rfl
    exact ofKey?_key n

end SettingName

/-! ## Values -/

/-- The bounds of a search. -/
structure Settings where
  /-- The years past the first one that a search may visit. -/
  horizonYears : Int
  /-- The most steps that a search may take. -/
  maxSteps : Int
  deriving DecidableEq

namespace Settings

/-- The bounds of a search where nothing else is said. -/
def default : Settings :=
  ⟨2, 2000000⟩

/-- The value of a setting. -/
def get (s : Settings) : SettingName → Int
  | .horizonYears => s.horizonYears
  | .maxSteps => s.maxSteps

/-- One setting changed. -/
def set (s : Settings) (value : Int) : SettingName → Settings
  | .horizonYears => { s with horizonYears := value }
  | .maxSteps => { s with maxSteps := value }

@[simp] theorem get_set_self (s : Settings) (value : Int) (n : SettingName) :
    (s.set value n).get n = value := by
  cases n <;> rfl

theorem get_set_of_ne {n m : SettingName} (h : m ≠ n) (s : Settings) (value : Int) :
    (s.set value n).get m = s.get m := by
  cases n <;> cases m <;> first | rfl | exact absurd rfl h

/-- Settings are the same if each has the same value in both. -/
theorem ext_get {s t : Settings} (h : ∀ n, s.get n = t.get n) : s = t := by
  cases s with
  | mk horizonYears maxSteps =>
    obtain rfl : horizonYears = t.horizonYears := h .horizonYears
    obtain rfl : maxSteps = t.maxSteps := h .maxSteps
    rfl

/-- The settings with values laid over them by key, one after the other; a key that names no setting
is passed over. -/
def overlay (s : Settings) : List (String × Int) → Settings
  | [] => s
  | (key, value) :: rest =>
    match SettingName.ofKey? key with
    | some n => (s.set value n).overlay rest
    | none => s.overlay rest

theorem overlay_append (s : Settings) (first rest : List (String × Int)) :
    s.overlay (first ++ rest) = (s.overlay first).overlay rest := by
  induction first generalizing s with
  | nil => rfl
  | cons entry first ih =>
    simp only [List.cons_append, overlay]
    split <;> exact ih _

theorem get_overlay_single (s : Settings) (key : String) (value : Int) (n : SettingName) :
    (s.overlay [(key, value)]).get n = if n.key = key then value else s.get n := by
  simp only [overlay]
  split
  · next m hm =>
    by_cases h : n = m
    · rw [if_pos (SettingName.ofKey?_eq_some_iff.1 (h ▸ hm)), h, get_set_self]
    · have hkey : n.key ≠ key := by
        intro hkey
        rw [SettingName.ofKey?_eq_some_iff.2 hkey] at hm
        exact h (Option.some.inj hm)
      rw [if_neg hkey, get_set_of_ne h]
  · next hnone =>
    have hkey : n.key ≠ key := by
      intro hkey
      rw [SettingName.ofKey?_eq_some_iff.2 hkey] at hnone
      cases hnone
    rw [if_neg hkey]

/-- **The last value counts**: after a row of values a setting has the one given last for its key,
and the one it had if none was given. -/
theorem get_overlay (s : Settings) (values : List (String × Int)) (n : SettingName) :
    (s.overlay values).get n = (values.reverse.lookup n.key).getD (s.get n) := by
  induction values generalizing s with
  | nil => rfl
  | cons entry rest ih =>
    obtain ⟨key, value⟩ := entry
    rw [List.reverse_cons, List.lookup_append, List.lookup_cons, List.lookup_nil,
      ← List.singleton_append, overlay_append, ih, get_overlay_single]
    cases rest.reverse.lookup n.key with
    | some last => rfl
    | none =>
      -- no later value for the key, so it is the one at hand that counts
      by_cases h : n.key = key
      · simp [h]
      · simp [h, beq_eq_false_iff_ne.2 h]

end Settings

end Cron
