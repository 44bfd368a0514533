/-!
# Log records

What the engine has to tell about its run, apart from its results. Records are made of the warnings
and of what is worth knowing; the traces of single steps at the debug level are not recorded.
-/

namespace SchemaWeaver

/-- How important a log record is. -/
inductive LogLevel where
  | debug
  | info
  | warning
  | error
  | critical
  deriving DecidableEq, Repr

namespace LogLevel

/-- All levels, the least important first. -/
def all : List LogLevel := [debug, info, warning, error, critical]

/-- The name of a level. -/
def name : LogLevel → String
  | debug => "DEBUG"
  | info => "INFO"
  | warning => "WARNING"
  | error => "ERROR"
  | critical => "CRITICAL"

/-- The level with a given name. -/
def ofName? (s : String) : Option LogLevel := all.find? fun level => level.name == s

/-- The rank of a level. -/
def rank : LogLevel → Nat
  | debug => 0
  | info => 1
  | warning => 2
  | error => 3
  | critical => 4

end LogLevel

/-- One message of the engine. -/
structure LogRecord where
  level : LogLevel
  message : String
  deriving DecidableEq, Repr

/-- The records that are at least as important as a level. -/
def LogRecord.atLeast (level : LogLevel) (records : List LogRecord) : List LogRecord :=
  records.filter fun record => level.rank ≤ record.level.rank

end SchemaWeaver
