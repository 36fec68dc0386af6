import Cron.Log.Level

/-! # Log records -/

namespace Cron.Log

/-- One message for the log, and the part of the library that it comes from. All records have the
level `DEBUG`. -/
structure Record where
  logger : String
  message : String
  deriving DecidableEq

/-- The name of the level of all records. -/
def Record.levelName (_ : Record) : String := "DEBUG"

/-- The level of all records. -/
def Record.level (_ : Record) : Int := debugLevel

end Cron.Log
