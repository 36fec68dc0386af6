import Cron.Settings.Basic
import Cron.Settings.Environment
import Cron.Text.Numeral
import Cron.Text.Quoted

/-! # Where settings come from

A setting is the override given for it, else what its environment variable says, else the default.
A variable has to hold a positive loose numeral even where an override makes it unnecessary; an
override may be any integer, but has to name a setting. One key is spoken for: it names the kind of
settings to be loaded, so nothing is looked at where an override is given for it.
-/

namespace Cron

open Text

/-! ## Errors -/

/-- A variable that holds no positive numeral. -/
structure BadVariable where
  setting : SettingName
  /-- What the variable holds. -/
  text : String
  deriving DecidableEq

/-- The wording for a bad variable. -/
def BadVariable.message (e : BadVariable) : String :=
  quoted e.text ++ " is not a valid value for " ++ quoted e.setting.key

/-- The name by which loading knows the kind of its settings; no override can be given for it. -/
def kindKey : String := "cls"

/-- Why settings cannot be had. -/
inductive LoadError where
  /-- An override is given for a key that the call needs for itself. -/
  | reservedKey (key : String)
  /-- A variable holds no positive numeral. -/
  | badVariable (error : BadVariable)
  /-- An override names no setting. -/
  | unknownKey (key : String)
  deriving DecidableEq

/-! ## Reading the environment -/

/-- The positive number that a text writes, where it writes one. -/
def readPositive (text : String) : Option Int :=
  (Numeral.readLoose text.toList).filter fun n => decide (0 < n)

/-- The value of a setting in the environment, if its variable is set. -/
def Environment.setting? (env : Environment) (n : SettingName) :
    Except BadVariable (Option Int) :=
  match env.get? n.variableName with
  | none => .ok none
  | some text =>
    match readPositive text with
    | some value => .ok (some value)
    | none => .error ⟨n, text⟩

/-- The values that the environment gives, by key, or the first bad variable. -/
def Environment.values (env : Environment) : Except BadVariable (List (String × Int)) := do
  let horizonYears ← env.setting? .horizonYears
  let maxSteps ← env.setting? .maxSteps
  return (horizonYears.map (SettingName.horizonYears.key, ·)).toList ++
    (maxSteps.map (SettingName.maxSteps.key, ·)).toList

/-! ## Loading -/

/-- The settings that an environment and overrides make. The environment is looked at first, and
overrides have the last word. -/
def Settings.load (env : Environment) (overrides : List (String × Int)) :
    Except LoadError Settings :=
  if kindKey ∈ overrides.map Prod.fst then .error (.reservedKey kindKey)
  else
    match env.values with
    | .error e => .error (.badVariable e)
    | .ok values =>
      match overrides.find? fun (key, _) => (SettingName.ofKey? key).isNone with
      | some (key, _) => .error (.unknownKey key)
      | none => .ok ((Settings.default.overlay values).overlay overrides)

end Cron
