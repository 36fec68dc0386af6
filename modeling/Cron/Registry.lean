import Cron.Text.Quoted

/-! # Registries

A registry keeps items under keys. A key is registered once, and the entries stand in the order of
their keys.
-/

namespace Cron

/-- Items by key, in the order of the keys. -/
structure Registry (α : Type) where
  entries : List (String × α)

/-- A key that has an item already. -/
structure DuplicateKey (α : Type) where
  key : String
  /-- The item it has. -/
  item : α
  deriving DecidableEq

/-- The wording for a duplicate key. -/
def DuplicateKey.message (e : DuplicateKey String) : String :=
  Text.quoted e.key ++ " is already registered with " ++ Text.quoted e.item

namespace Registry

variable {α : Type}

/-- No key is registered. -/
def empty : Registry α := ⟨[]⟩

/-- The item of a key. -/
def get? (r : Registry α) (key : String) : Option α :=
  r.entries.lookup key

/-- An entry put in front of the first greater key. -/
def insertSorted (key : String) (item : α) : List (String × α) → List (String × α)
  | [] => [(key, item)]
  | entry :: rest =>
    if key < entry.1 then (key, item) :: entry :: rest
    else entry :: insertSorted key item rest

/-- Keep an item under a new key. -/
def register (r : Registry α) (key : String) (item : α) :
    Except (DuplicateKey α) (Registry α) :=
  match r.get? key with
  | some present => .error ⟨key, present⟩
  | none => .ok ⟨insertSorted key item r.entries⟩

end Registry

end Cron
