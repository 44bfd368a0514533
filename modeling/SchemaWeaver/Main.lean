import SchemaWeaver.CommandLine.Run
import SchemaWeaver.Json.Printer

/-!
# The program

The outer layer: it looks up the variables and files that a run may need, runs the program, and
prints what the run has to tell.
-/

namespace SchemaWeaver.CommandLine

/-- The variables that may hold a setting. -/
def variableNames : List String :=
  Config.names.map fun setting =>
    String.ofList ((Config.variableStart ++ setting).toList.map Char.toUpper)

/-- The variables that the settings file refers to. -/
def referencedNames (directory : Directory) : List String :=
  match Config.fileBindings directory Config.defaultFile with
  | .ok bindings => Dotenv.references bindings
  | .error _ => []

/-- Those of the given variables that are set. -/
def readEnvironment (names : List String) : IO (OrderedMap String) := do
  let bindings ← names.filterMapM fun name => do
    return (← IO.getEnv name).map fun value => (name, value)
  return OrderedMap.ofList bindings

/-- The file under a path, if there is one. -/
def readEntry (path : String) : IO (Option (String × FileEntry)) := do
  try
    let bytes ← IO.FS.readBinFile path
    return some (path, .file bytes)
  catch _ => return none

/-- The files among the given paths. -/
def readDirectory (paths : List String) : IO Directory := do
  let entries ← paths.filterMapM readEntry
  return ⟨entries⟩

/-- A table as lines of tab-separated cells. -/
def Printed.lines : Printed → List String
  | text markup => [markup]
  | json value => [value.pretty]
  | table t => t.title :: (t.columns :: t.rows).map fun row => "\t".intercalate row

end SchemaWeaver.CommandLine

open SchemaWeaver SchemaWeaver.CommandLine in
/-- Runs the program on the arguments of its command line. -/
def main (arguments : List String) : IO UInt32 := do
  let directory ← readDirectory (Config.defaultFile :: arguments.map resolvedPath)
  let environment ← readEnvironment (variableNames ++ referencedNames directory)
  let response := run ⟨environment, directory⟩ arguments
  for record in response.log do
    IO.eprintln (record.level.name ++ " " ++ record.message)
  for line in response.err.flatMap Printed.lines do
    IO.eprintln line
  for line in response.out.flatMap Printed.lines do
    IO.println line
  return response.exitCode.toUInt32
