/-! # Environment variables

An environment gives names texts. Names are told apart by letter case.
-/

namespace Cron

/-- The variables that are set, by name. -/
structure Environment where
  get? : String → Option String

namespace Environment

/-- No variable is set. -/
def empty : Environment := ⟨fun _ => none⟩

/-- One variable is set to a text, or unset; the others stay as they are. -/
def set (env : Environment) (name : String) (value : Option String) : Environment :=
  ⟨fun n => if n = name then value else env.get? n⟩

@[simp] theorem get?_set_self (env : Environment) (name : String) (value : Option String) :
    (env.set name value).get? name = value := by
  simp [set]

@[simp] theorem get?_set_of_ne {env : Environment} {name other : String} (h : other ≠ name)
    (value : Option String) : (env.set name value).get? other = env.get? other := by
  simp [set, h]

end Environment

end Cron
