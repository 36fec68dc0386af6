import Cron.Log.Format

/-! # The console

The console prints records one after the other, in every line format that is installed: nothing
before there is one, and then each record whose level reaches its own. A format is installed only
where there is none; the level can be changed at any time.
-/

namespace Cron.Log

/-- The state of the console. -/
structure Console where
  /-- The lowest level that is printed. -/
  level : Int
  /-- The line formats that are installed. -/
  formats : List String
  deriving DecidableEq

/-- Why the console is not configured as asked. -/
inductive ConsoleError where
  /-- The level has no such name. -/
  | level (error : UnknownLevel)
  /-- The line format has no field. -/
  | format (text : String)
  deriving DecidableEq

/-- The wording of a console error. -/
def ConsoleError.message : ConsoleError → String
  | level e => e.message
  | format text => "Invalid format '" ++ text ++ "' for '%' style"

namespace Console

/-- A console of a level, with no format to print in. -/
def bare (level : Int) : Console := ⟨level, []⟩

/-- The first line format, once there is one. -/
def format (c : Console) : Option String := c.formats.head?

/-- The level that is set where none is asked for. -/
def defaultLevel : LevelChoice := .number 20

/-- The line format that is set where none is asked for. -/
def defaultFormat : String := "%(asctime)s %(levelname)s [%(name)s] %(message)s"

/-- The format meant by a text; an empty one means the bare message. -/
def effectiveFormat (text : String) : String :=
  if text.isEmpty then "%(message)s" else text

/-- Set the level, then install a format if there is none. An unknown level changes nothing; a text
without a field is refused after the level has been set. -/
def configure (c : Console) (level : LevelChoice) (text : String) :
    Except ConsoleError Unit × Console :=
  match level.resolve with
  | .error e => (.error (.level e), c)
  | .ok n =>
    let c := { c with level := n }
    if c.formats.isEmpty then
      let format := effectiveFormat text
      if hasField format.toList then (.ok (), { c with formats := c.formats ++ [format] })
      else (.error (.format format), c)
    else (.ok (), c)

/-- What is printed for records: each that the console lets pass, in each format. -/
def print (c : Console) (m : Moment) (records : List Record) : String :=
  String.join ((records.filter fun r => c.level ≤ r.level).flatMap fun r =>
    c.formats.map fun format => m.printed format r)

end Console

end Cron.Log
