import SchemaWeaver.Registry
import SchemaWeaver.Validation.Scalar

/-!
# Settings of a run

The five settings, their defaults, and the check that reads them from named values.
-/

namespace SchemaWeaver

/-- The settings of a run. -/
structure Config where
  duplicatePolicy : DuplicatePolicy
  warnOnKeyCollision : Bool
  maxWorkers : Nat
  defaultBackend : String
  logLevel : LogLevel
  deriving DecidableEq, Repr

namespace Config

open SchemaWeaver.Check

/-- The settings that hold when nothing is set. -/
def defaults : Config where
  duplicatePolicy := .refuse
  warnOnKeyCollision := true
  maxWorkers := 1
  defaultBackend := "rust"
  logLevel := .warning

/-- The names of the settings. -/
def names : List String :=
  ["duplicate_policy", "warn_on_key_collision", "max_workers", "default_backend", "log_level"]

/-- The choices for the policy. -/
def policies : List (String × DuplicatePolicy) :=
  [DuplicatePolicy.refuse, .replace].map fun policy => (policy.name, policy)

/-- The choices for the log level. -/
def logLevels : List (String × LogLevel) := LogLevel.all.map fun level => (level.name, level)

/-- Reads the settings from named values; what is not named takes its default. -/
def check (members : Members) : Checked Config :=
  Config.mk <$> optional "duplicate_policy" defaults.duplicatePolicy (choice policies) members <*>
    optional "warn_on_key_collision" defaults.warnOnKeyCollision flag members <*>
    optional "max_workers" defaults.maxWorkers (naturalBetween 1 64) members <*>
    optional "default_backend" defaults.defaultBackend text members <*>
    optional "log_level" defaults.logLevel (choice logLevels) members

end Config

end SchemaWeaver
