import Cron.Text.LetterCase
import Cron.Text.Quoted

/-! # Log levels

A level is a number, and eight names stand for numbers. Names are recognised in any letter case, but
blanks are part of a name.
-/

namespace Cron.Log

open Text

/-- The names of levels and the numbers they stand for. -/
def levelNames : List (String × Int) :=
  [("CRITICAL", 50), ("FATAL", 50), ("ERROR", 40), ("WARN", 30), ("WARNING", 30), ("INFO", 20),
    ("DEBUG", 10), ("NOTSET", 0)]

/-- The level of all records of this library. -/
def debugLevel : Int := 10

/-- A level as it is asked for. -/
inductive LevelChoice where
  | number (n : Int)
  | named (name : String)
  deriving DecidableEq

/-- A name that stands for no level. -/
structure UnknownLevel where
  name : String
  deriving DecidableEq

/-- The wording for an unknown level. -/
def UnknownLevel.message (e : UnknownLevel) : String :=
  quoted e.name ++ " is not a valid logging level name"

/-- The number of the level asked for. -/
def LevelChoice.resolve : LevelChoice → Except UnknownLevel Int
  | number n => .ok n
  | named name =>
    match levelNames.lookup (String.ofList (upperCase name.toList)) with
    | some n => .ok n
    | none => .error ⟨name⟩

end Cron.Log
