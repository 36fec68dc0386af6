import Cron.Settings.Basic

/-! # Settings objects

Loaded settings are an object. Beside its two values it has attributes, its operations among them,
and an update sets whatever attribute is named: a key is passed over only where the object has no
attribute of that name. A value that is set for an operation hides it, and `update` is looked up on
the object like any other; so an update can be the last one.

Main statement: `hides_set`.
-/

namespace Cron

/-! ## Attributes -/

/-- The attributes that settings have beside their two values. -/
def attributeNames : List String :=
  ["as_dict", "from_defaults", "from_envs", "load", "update", "__annotations__", "__class__",
    "__dataclass_fields__", "__dataclass_params__", "__delattr__", "__dict__", "__dir__", "__doc__",
    "__eq__", "__format__", "__ge__", "__getattribute__", "__getstate__", "__gt__", "__hash__",
    "__init__", "__init_subclass__", "__le__", "__lt__", "__match_args__", "__module__", "__ne__",
    "__new__", "__reduce__", "__reduce_ex__", "__repr__", "__setattr__", "__sizeof__", "__str__",
    "__subclasshook__", "__weakref__"]

/-- The attributes for which no number can be set. -/
def fixedNames : List String := ["__class__", "__dict__", "__weakref__"]

/-- The name by which an update knows its object; no value can be given for it. -/
def objectKey : String := "self"

/-- Why an update is refused. -/
inductive UpdateError where
  /-- A value was set for `update` itself. -/
  | hidden
  /-- A value is given for a key that the call needs for itself. -/
  | reservedKey (key : String)
  /-- The attribute cannot be set. -/
  | fixed (name : String)
  deriving DecidableEq

/-- Settings as an object. -/
structure SettingsObject where
  values : Settings
  /-- The values that were set for other attributes, the latest first. -/
  attributes : List (String × Int)
  deriving DecidableEq

namespace SettingsObject

/-- Settings as they are loaded. -/
def ofSettings (values : Settings) : SettingsObject := ⟨values, []⟩

/-- A value was set for the attribute, and hides what it was before. -/
def Hides (o : SettingsObject) (name : String) : Prop :=
  name ∈ o.attributes.map Prod.fst

instance (o : SettingsObject) (name : String) : Decidable (o.Hides name) :=
  inferInstanceAs (Decidable (_ ∈ _))

theorem not_hides_ofSettings (values : Settings) (name : String) :
    ¬(ofSettings values).Hides name :=
  List.not_mem_nil

/-- The object has an attribute of the name. -/
def Has (o : SettingsObject) (name : String) : Prop :=
  (SettingName.ofKey? name).isSome = true ∨ name ∈ attributeNames ∨ o.Hides name

instance (o : SettingsObject) (name : String) : Decidable (o.Has name) :=
  inferInstanceAs (Decidable (_ ∨ _))

/-- One attribute set. -/
def set (o : SettingsObject) (name : String) (value : Int) : SettingsObject :=
  match SettingName.ofKey? name with
  | some n => { o with values := o.values.set value n }
  | none => { o with attributes := (name, value) :: o.attributes }

/-- Set the attributes that the object has, one after the other, up to the first that cannot be
set. -/
def setEach (o : SettingsObject) : List (String × Int) → Except UpdateError Unit × SettingsObject
  | [] => (.ok (), o)
  | (name, value) :: rest =>
    if o.Has name then
      if name ∈ fixedNames then (.error (.fixed name), o)
      else (o.set name value).setEach rest
    else o.setEach rest

/-- Update the object with values by key. An update that is refused for an attribute has set the
ones before it. -/
def update (o : SettingsObject) (values : List (String × Int)) :
    Except UpdateError Unit × SettingsObject :=
  if o.Hides "update" then (.error .hidden, o)
  else if objectKey ∈ values.map Prod.fst then (.error (.reservedKey objectKey), o)
  else o.setEach values

theorem hides_set {name : String} (hname : SettingName.ofKey? name = none) (o : SettingsObject)
    (first : String) (value : Int) :
    (o.set first value).Hides name ↔ o.Hides name ∨ name = first := by
  rw [set]
  cases hfirst : SettingName.ofKey? first with
  | none => simp [Hides, or_comm]
  | some n =>
    have hne : name ≠ first := by
      rintro rfl
      rw [hname] at hfirst
      cases hfirst
    simp [Hides, hne]

theorem has_of_mem_fixedNames {name : String} (h : name ∈ fixedNames) (o : SettingsObject) :
    o.Has name := by
  have hsubset : ∀ name ∈ fixedNames, name ∈ attributeNames := by decide
  exact Or.inr (Or.inl (hsubset name h))

end SettingsObject

end Cron
