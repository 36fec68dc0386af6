import Cron.Text.Blank
import Cron.Text.LetterCase

/-! # Names for common schedules

Seven names stand for whole expressions. A name is recognised in any letter case and with blanks
around it.
-/

namespace Cron

open Text

/-- A name that stands for an expression. -/
structure Alias where
  name : String
  /-- The expression it stands for. -/
  expansion : String
  /-- The sentence that describes the schedule. -/
  description : String
  deriving DecidableEq

namespace Alias

/-- All names, in alphabetical order. -/
def all : List Alias :=
  [⟨"@annually", "0 0 1 1 *", "Once a year (January 1st at 00:00)"⟩,
    ⟨"@daily", "0 0 * * *", "Once a day (at 00:00)"⟩,
    ⟨"@hourly", "0 * * * *", "Once an hour (at minute 0)"⟩,
    ⟨"@minutely", "* * * * *", "Every minute"⟩,
    ⟨"@monthly", "0 0 1 * *", "Once a month (1st day at 00:00)"⟩,
    ⟨"@weekly", "0 0 * * 0", "Once a week (Sunday at 00:00)"⟩,
    ⟨"@yearly", "0 0 1 1 *", "Once a year (January 1st at 00:00)"⟩]

/-- The name that a text is, blanks and letter case aside. -/
def find? (text : String) : Option Alias :=
  let name := lowerCase (trim text.toList)
  all.find? fun a => a.name.toList == name

/-- The expression that a text is the name of; any other text without the blanks around it. -/
def expand (text : String) : String :=
  match find? text with
  | some a => a.expansion
  | none => String.ofList (trim text.toList)

end Alias

end Cron
