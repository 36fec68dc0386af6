import Cron.Proofs.Settings.Update
import Cron.Proofs.Term.Faults
import Cron.Proofs.Text.LooseNumeral
import Cron.Settings.Load

/-! # What settings are loaded

Three layers give a setting its value: the override for it, the variable for it, and the default. A
layer counts where the ones before it say nothing. Only variables are checked, and they are checked
first: an override does not make up for a bad variable, and a key that names no setting is an error
only where all variables are in order. The one exception is a key that the call needs for itself, with
which nothing is looked at.

Once loaded, settings are updated as an object. Two updates give each setting the value in the
second, else in the first, else the one it had, as long as no value is given that an update cannot do
with, and the first gives none for `update` itself.

Main statements: `loadsAs_load`, and `settings_resolved` for loading and updating.
-/

namespace Cron

open Text.Numeral (Loose readLoose_eq_some_iff)

variable {env : Environment} {overrides : List (String × Int)} {n : SettingName}
  {text key : String} {value : Int}

/-! ## Variables -/

/-- **A positive numeral**, loosely written. -/
def WritesPositive (text : String) (value : Int) : Prop :=
  Loose text.toList value ∧ 0 < value

theorem readPositive_eq_some_iff : readPositive text = some value ↔ WritesPositive text value := by
  rw [readPositive, Option.filter_eq_some_iff, readLoose_eq_some_iff, decide_eq_true_eq,
    WritesPositive]

theorem readPositive_eq_none_iff :
    readPositive text = none ↔ ∀ value, ¬ WritesPositive text value := by
  simp only [Option.eq_none_iff_forall_ne_some, ne_eq, readPositive_eq_some_iff]

/-- **A bad variable** is set to a text that writes no positive number. -/
structure Environment.Bad (env : Environment) (bad : BadVariable) : Prop where
  set : env.get? bad.setting.variableName = some bad.text
  not_positive : ∀ value, ¬ WritesPositive bad.text value

/-- **What a variable says**: nothing if it is not set, and the number that it writes if that is
positive. -/
inductive Environment.Says (env : Environment) (n : SettingName) : Option Int → Prop
  | nothing (unset : env.get? n.variableName = none) : env.Says n none
  | number {text : String} {value : Int} (set : env.get? n.variableName = some text)
    (writes : WritesPositive text value) : env.Says n (some value)

/-- **In order** is a variable that is not set, or set to a positive numeral. -/
def Environment.InOrder (env : Environment) (n : SettingName) : Prop :=
  ∃ said, env.Says n said

namespace Environment

variable {said : Option Int} {bad : BadVariable}

theorem setting?_eq_ok_iff : env.setting? n = .ok said ↔ env.Says n said := by
  unfold setting?
  constructor
  · intro h
    split at h
    · next unset =>
      cases h
      exact .nothing unset
    · next text set =>
      split at h
      · next value hread =>
        cases h
        exact .number set (readPositive_eq_some_iff.1 hread)
      · cases h
  · rintro (unset | ⟨set, writes⟩)
    · rw [unset]
    · simp only [set, readPositive_eq_some_iff.2 writes]

theorem setting?_eq_error_iff :
    env.setting? n = .error bad ↔ bad.setting = n ∧ env.Bad bad := by
  unfold setting?
  constructor
  · intro h
    split at h
    · cases h
    · next text set =>
      split at h
      · cases h
      · next hread =>
        cases h
        exact ⟨rfl, set, readPositive_eq_none_iff.1 hread⟩
  · rintro ⟨rfl, set, not_positive⟩
    simp only [set, readPositive_eq_none_iff.2 not_positive]

theorem Bad.not_inOrder (h : env.Bad bad) : ¬ env.InOrder bad.setting := by
  rintro ⟨said, hsaid⟩
  rw [← setting?_eq_ok_iff, setting?_eq_error_iff.2 ⟨rfl, h⟩] at hsaid
  cases hsaid

theorem Says.unique {said' : Option Int} (h : env.Says n said) (h' : env.Says n said') :
    said = said' := by
  rw [← setting?_eq_ok_iff] at h h'
  exact Except.ok.inj (h.symm.trans h')

theorem Bad.text_eq {text' : String} (h : env.Bad ⟨n, text⟩) (h' : env.Bad ⟨n, text'⟩) :
    text = text' :=
  Option.some.inj (h.set.symm.trans h'.set)

/-- The entry of a setting in the environment, if its variable says something. -/
def entry (n : SettingName) (said : Option Int) : List (String × Int) :=
  (said.map (n.key, ·)).toList

theorem exists_says_of_values_eq_ok {values : List (String × Int)} (h : env.values = .ok values) :
    ∃ said : SettingName → Option Int, (∀ n, env.Says n (said n)) ∧
      values = SettingName.all.flatMap fun n => entry n (said n) := by
  obtain ⟨horizonYears, hfirst, h⟩ := exists_of_bind_eq_ok h
  obtain ⟨maxSteps, hsecond, h⟩ := exists_of_bind_eq_ok h
  cases h
  refine ⟨fun n => n.casesOn horizonYears maxSteps, fun n => ?_, ?_⟩
  · cases n with
    | horizonYears => exact setting?_eq_ok_iff.1 hfirst
    | maxSteps => exact setting?_eq_ok_iff.1 hsecond
  · rw [SettingName.all, List.flatMap_cons, List.flatMap_singleton]
    rfl

/-- The variable of the horizon is looked at before that of the steps. -/
theorem bad_of_values_eq_error (h : env.values = .error bad) : env.Bad bad ∧
    (bad.setting = .horizonYears ∨ bad.setting = .maxSteps ∧ env.InOrder .horizonYears) := by
  rcases error_of_bind_eq_error h with hfirst | ⟨horizonYears, hfirst, h⟩
  · obtain ⟨hsetting, hbad⟩ := setting?_eq_error_iff.1 hfirst
    exact ⟨hbad, Or.inl hsetting⟩
  · rcases error_of_bind_eq_error h with hsecond | ⟨maxSteps, -, h⟩
    · obtain ⟨hsetting, hbad⟩ := setting?_eq_error_iff.1 hsecond
      exact ⟨hbad, Or.inr ⟨hsetting, horizonYears, setting?_eq_ok_iff.1 hfirst⟩⟩
    · cases h

end Environment

/-! ## Overrides -/

/-- The key of a setting. -/
def IsKey (key : String) : Prop :=
  ∃ n : SettingName, n.key = key

theorem isNone_ofKey?_iff : (SettingName.ofKey? key).isNone = true ↔ ¬ IsKey key := by
  simp only [IsKey, ← SettingName.ofKey?_eq_some_iff, ← Option.isSome_iff_exists,
    Option.not_isSome_iff_eq_none, Option.isNone_iff_eq_none]

/-- Looking for a key that names no setting finds the first one. -/
theorem firstWithout_of_find?
    (h : (overrides.find? fun (key, _) => (SettingName.ofKey? key).isNone) = some (key, value)) :
    FirstWithout IsKey (overrides.map Prod.fst) key := by
  induction overrides with
  | nil => cases h
  | cons entry rest ih =>
    obtain ⟨key', value'⟩ := entry
    rw [List.find?_cons] at h
    split at h
    · next hnone =>
      cases h
      exact .head (isNone_ofKey?_iff.1 hnone)
    · next hnone =>
      rw [← Bool.not_eq_true, isNone_ofKey?_iff, not_not] at hnone
      exact .tail hnone (ih h)

theorem isKey_of_find?_eq_none
    (h : (overrides.find? fun (key, _) => (SettingName.ofKey? key).isNone) = none) :
    ∀ key ∈ overrides.map Prod.fst, IsKey key := by
  intro key hkey
  obtain ⟨entry, hentry, rfl⟩ := List.mem_map.1 hkey
  have hsome := List.find?_eq_none.1 h entry hentry
  rwa [isNone_ofKey?_iff, not_not] at hsome

/-! ## All layers -/

/-- **The value of a setting** is the override given last for it, else what its variable says, else
the default. -/
inductive Resolves (env : Environment) (overrides : List (String × Int)) (n : SettingName) :
    Int → Prop
  | override {value : Int} (given : overrides.reverse.lookup n.key = some value) :
    Resolves env overrides n value
  | environment {value : Int} (free : overrides.reverse.lookup n.key = none)
    (said : env.Says n (some value)) : Resolves env overrides n value
  | default (free : overrides.reverse.lookup n.key = none) (said : env.Says n none) :
    Resolves env overrides n (Settings.default.get n)

/-- **What loading comes to.** -/
inductive LoadsAs (env : Environment) (overrides : List (String × Int)) :
    Except LoadError Settings → Prop
  /-- An override is given for the key that the call needs for itself. -/
  | reservedKey (reserved : kindKey ∈ overrides.map Prod.fst) :
    LoadsAs env overrides (.error (.reservedKey kindKey))
  /-- The variable of the horizon is bad. -/
  | horizonYears {text : String} (free : kindKey ∉ overrides.map Prod.fst)
    (bad : env.Bad ⟨.horizonYears, text⟩) :
    LoadsAs env overrides (.error (.badVariable ⟨.horizonYears, text⟩))
  /-- The variable of the steps is bad, and that of the horizon is not. -/
  | maxSteps {text : String} (free : kindKey ∉ overrides.map Prod.fst)
    (horizonYears : env.InOrder .horizonYears) (bad : env.Bad ⟨.maxSteps, text⟩) :
    LoadsAs env overrides (.error (.badVariable ⟨.maxSteps, text⟩))
  /-- All variables are in order, and an override names no setting. -/
  | unknownKey {key : String} (free : kindKey ∉ overrides.map Prod.fst)
    (inOrder : ∀ n, env.InOrder n) (first : FirstWithout IsKey (overrides.map Prod.fst) key) :
    LoadsAs env overrides (.error (.unknownKey key))
  | loaded {s : Settings} (inOrder : ∀ n, env.InOrder n)
    (keys : ∀ key ∈ overrides.map Prod.fst, IsKey key)
    (values : ∀ n, Resolves env overrides n (s.get n)) : LoadsAs env overrides (.ok s)

theorem resolves_iff {said : Option Int} (hsaid : env.Says n said) :
    Resolves env overrides n value ↔
      value = (overrides.reverse.lookup n.key).getD (said.getD (Settings.default.get n)) := by
  constructor
  · intro h
    cases h with
    | override given => rw [given, Option.getD_some]
    | environment free said' => rw [free, hsaid.unique said', Option.getD_none, Option.getD_some]
    | default free said' => rw [free, hsaid.unique said', Option.getD_none, Option.getD_none]
  · rintro rfl
    cases hgiven : overrides.reverse.lookup n.key with
    | some value => exact .override hgiven
    | none =>
      cases said with
      | some value => exact .environment hgiven hsaid
      | none => exact .default hgiven hsaid

/-- The key that loading needs for itself names no setting. -/
theorem not_isKey_kindKey : ¬IsKey kindKey := by
  rintro ⟨n, h⟩
  cases n <;> exact absurd h (by decide)

/-- Variables and overrides leave one outcome. -/
theorem LoadsAs.unique {outcome outcome' : Except LoadError Settings}
    (h : LoadsAs env overrides outcome) (h' : LoadsAs env overrides outcome') :
    outcome = outcome' := by
  cases h with
  | reservedKey reserved =>
    cases h' with
    | reservedKey => rfl
    | horizonYears free | maxSteps free | unknownKey free => exact absurd reserved free
    | loaded _ keys => exact absurd (keys _ reserved) not_isKey_kindKey
  | horizonYears free bad =>
    cases h' with
    | reservedKey reserved => exact absurd reserved free
    | horizonYears _ bad' => rw [bad.text_eq bad']
    | maxSteps _ horizonYears => exact absurd horizonYears bad.not_inOrder
    | unknownKey _ inOrder | loaded inOrder => exact absurd (inOrder _) bad.not_inOrder
  | maxSteps free horizonYears bad =>
    cases h' with
    | reservedKey reserved => exact absurd reserved free
    | horizonYears _ bad' => exact absurd horizonYears bad'.not_inOrder
    | maxSteps _ _ bad' => rw [bad.text_eq bad']
    | unknownKey _ inOrder | loaded inOrder => exact absurd (inOrder _) bad.not_inOrder
  | unknownKey free inOrder first =>
    cases h' with
    | reservedKey reserved => exact absurd reserved free
    | horizonYears _ bad' | maxSteps _ _ bad' => exact absurd (inOrder _) bad'.not_inOrder
    | unknownKey _ _ first' => rw [first.unique first']
    | loaded _ keys _ => exact absurd (keys _ first.mem) first.not_good
  | loaded inOrder keys values =>
    cases h' with
    | reservedKey reserved => exact absurd (keys _ reserved) not_isKey_kindKey
    | horizonYears _ bad' | maxSteps _ _ bad' => exact absurd (inOrder _) bad'.not_inOrder
    | unknownKey _ _ first' => exact absurd (keys _ first'.mem) first'.not_good
    | loaded _ _ values' =>
      refine congrArg Except.ok (Settings.ext_get fun n => ?_)
      obtain ⟨said, hsaid⟩ := inOrder n
      rw [(resolves_iff hsaid).1 (values n), (resolves_iff hsaid).1 (values' n)]

/-- Over the defaults lies what the variables say, and over that lie the overrides. -/
theorem get_overlay_overlay (said : SettingName → Option Int) (n : SettingName) :
    ((Settings.default.overlay
        (SettingName.all.flatMap fun n => Environment.entry n (said n))).overlay overrides).get n =
      (overrides.reverse.lookup n.key).getD ((said n).getD (Settings.default.get n)) := by
  rw [Settings.get_overlay]
  congr 1
  rw [SettingName.all, List.flatMap_cons, List.flatMap_singleton]
  generalize hfirst : said .horizonYears = first
  generalize hsecond : said .maxSteps = second
  cases n with
  | horizonYears =>
    rw [hfirst]
    cases first <;> cases second <;> rfl
  | maxSteps =>
    rw [hsecond]
    cases first <;> cases second <;> rfl

theorem loadsAs_load (env : Environment) (overrides : List (String × Int)) :
    LoadsAs env overrides (Settings.load env overrides) := by
  unfold Settings.load
  split
  · next reserved => exact .reservedKey reserved
  · next free =>
    cases hvalues : env.values with
    | error bad =>
      obtain ⟨setting, text⟩ := bad
      rcases Environment.bad_of_values_eq_error hvalues with ⟨hbad, rfl | ⟨rfl, horizonYears⟩⟩
      · exact .horizonYears free hbad
      · exact .maxSteps free horizonYears hbad
    | ok values =>
      obtain ⟨said, hsaid, rfl⟩ := Environment.exists_says_of_values_eq_ok hvalues
      have inOrder : ∀ n, env.InOrder n := fun n => ⟨said n, hsaid n⟩
      cases hfind : overrides.find? fun (key, _) => (SettingName.ofKey? key).isNone with
      | some entry => exact .unknownKey free inOrder (firstWithout_of_find? hfind)
      | none =>
        exact .loaded inOrder (isKey_of_find?_eq_none hfind) fun n =>
          (resolves_iff (hsaid n)).2 (get_overlay_overlay said n)

/-- **How settings are resolved.** Loading comes to one outcome: an error for the key that the call
needs for itself, else one for the first variable that is set to anything but a positive loose
numeral, else one for the first override that names no setting, else settings whose values are the
overrides, what the variables say and the defaults, in this order of precedence. An update comes to
one outcome too, and whatever is set gives each setting the value given last for it. Two updates give
each setting the value given last in the second, else in the first, else the one it had, if they are
carried out; and both are just if the first is not hidden and gives no value for `update`, and neither
names a key that the call needs for itself or an attribute that cannot be set. Other keys make no
difference. -/
theorem settings_resolved (env : Environment) (overrides : List (String × Int))
    (o : SettingsObject) (first rest : List (String × Int)) :
    (∀ outcome : Except LoadError Settings,
      Settings.load env overrides = outcome ↔ LoadsAs env overrides outcome) ∧
    (∀ (result : Except UpdateError Unit) (o' : SettingsObject),
      o.update first = (result, o') ↔ o.Updates first result o') ∧
    (∀ n : SettingName, (o.setAll first).values.get n =
      (first.reverse.lookup n.key).getD (o.values.get n)) ∧
    ((∃ o' o'', o.update first = (.ok (), o') ∧ o'.update rest = (.ok (), o'') ∧
        ∀ n : SettingName, o''.values.get n = (rest.reverse.lookup n.key).getD
          ((first.reverse.lookup n.key).getD (o.values.get n))) ↔
      (¬o.Hides "update" ∧ SettingsObject.Settable first) ∧
        "update" ∉ first.map Prod.fst ∧ SettingsObject.Settable rest) := by
  refine ⟨fun outcome => ⟨?_, (loadsAs_load env overrides).unique⟩,
    fun result o' => SettingsObject.update_eq_iff, fun n => ?_, SettingsObject.update_update_iff⟩
  · rintro rfl
    exact loadsAs_load env overrides
  · rw [SettingsObject.values_setAll, Settings.get_overlay]

/-- Two updates with keys that name a setting, another attribute, and nothing at all. -/
theorem settings_resolved_two_updates : ∃ o' o'' : SettingsObject,
    (SettingsObject.ofSettings .default).update [("depth", 1), ("load", 7), ("horizon_years", 9)] =
      (.ok (), o') ∧
    o'.update [("horizon_years", -1), ("update", 5)] = (.ok (), o'') ∧
    o''.values.get .horizonYears = -1 ∧ o''.values.get .maxSteps = 2000000 := by
  obtain ⟨-, -, -, htwo⟩ := settings_resolved .empty [] (.ofSettings .default)
    [("depth", 1), ("load", 7), ("horizon_years", 9)] [("horizon_years", -1), ("update", 5)]
  obtain ⟨o', o'', hfirst, hrest, hvalue⟩ := htwo.2 (by decide)
  exact ⟨o', o'', hfirst, hrest, hvalue .horizonYears, hvalue .maxSteps⟩

/-- A value for `update` is accepted like any other, and no setting can be updated after it. -/
theorem update_hidden_by_value : ∃ o' : SettingsObject,
    (SettingsObject.ofSettings .default).update [("update", 5)] = (.ok (), o') ∧
    o'.update [("horizon_years", 9)] = (.error .hidden, o') ∧
    o'.values.get .horizonYears = 2 :=
  ⟨⟨.default, [("update", 5)]⟩, by decide, by decide, rfl⟩

/-- Padding, a sign and an underscore are no obstacle, and an override is not checked. -/
example : Settings.load (Environment.empty.set "CRONSIGHT_HORIZON_YEARS" (some " +1_2\n"))
    [("max_iterations", -5)] = .ok ⟨12, -5⟩ := by decide

/-- An override does not make up for a bad variable. -/
example : Settings.load (Environment.empty.set "CRONSIGHT_HORIZON_YEARS" (some "1__2"))
    [("horizon_years", 5)] = .error (.badVariable ⟨.horizonYears, "1__2"⟩) := by decide

end Cron
