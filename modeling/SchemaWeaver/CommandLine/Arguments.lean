import SchemaWeaver.Directory
import SchemaWeaver.Number.IntegerText

/-!
# Command line arguments

Options have long names and short ones. The value of an option follows it, or is attached to it:
behind an equals sign to a long name, directly to a short one. Short flags can be written in one
word, and two dashes end the options. The program takes options of its own, the name of a command
and the arguments of that command.
-/

namespace SchemaWeaver.CommandLine

/-- An option: what it is called and whether it takes a value. -/
structure OptionSpec where
  key : String
  long : String
  short : Option Char
  takesValue : Bool
  deriving DecidableEq, Repr

/-- What a list of arguments says: options in order, with their values, and the other arguments. -/
structure Arguments where
  options : List (String × String)
  operands : List String
  deriving DecidableEq, Repr

/-- Arguments that do not fit the options of the program. -/
inductive UsageError where
  | unknownOption
  | missingValue
  | unwantedValue
  | missingCommand
  | unknownCommand
  | missingOperand
  | extraOperand
  | unusablePath
  | unusableNumber
  deriving DecidableEq, Repr

namespace Arguments

/-- No arguments. -/
def none : Arguments := ⟨[], []⟩

/-- Puts options in front. -/
def withOptions (options : List (String × String)) (a : Arguments) : Arguments :=
  { a with options := options ++ a.options }

/-- Puts an operand in front. -/
def withOperand (operand : String) (a : Arguments) : Arguments :=
  { a with operands := operand :: a.operands }

/-- Whether an option was given. -/
def has (a : Arguments) (key : String) : Bool := (a.options.lookup key).isSome

/-- The value of an option; of several the last one counts. -/
def value? (a : Arguments) (key : String) : Option String := a.options.reverse.lookup key

end Arguments

/-- What one word says: options that are complete, and perhaps one that waits for the next word. -/
structure Word where
  options : List (String × String)
  waiting : Option String
  deriving DecidableEq, Repr

/-- Whether a word is written like an option. -/
def isOption (word : String) : Bool :=
  match word.toList with
  | '-' :: _ :: _ => true
  | _ => false

/-- Reads the short options of a word behind its dash. -/
def readShort (specs : List OptionSpec) : List Char → Except UsageError Word
  | [] => .ok ⟨[], none⟩
  | c :: rest =>
    match specs.find? fun spec => spec.short == some c with
    | none => .error .unknownOption
    | some spec =>
      if spec.takesValue then
        if rest.isEmpty then .ok ⟨[], some spec.key⟩
        else .ok ⟨[(spec.key, String.ofList rest)], none⟩
      else (readShort specs rest).map fun word =>
        { word with options := (spec.key, "") :: word.options }

/-- Reads a word that is written like an option. -/
def readWord (specs : List OptionSpec) (word : String) : Except UsageError Word :=
  let s := word.toList
  let name := String.ofList (s.takeWhile (· ≠ '='))
  let attached? := match s.dropWhile (· ≠ '=') with
    | _ :: value => some (String.ofList value)
    | [] => none
  match specs.find? fun spec => spec.long == name with
  | some spec =>
    match spec.takesValue, attached? with
    | true, some value => .ok ⟨[(spec.key, value)], none⟩
    | true, none => .ok ⟨[], some spec.key⟩
    | false, none => .ok ⟨[(spec.key, "")], none⟩
    | false, some _ => .error .unwantedValue
  | none =>
    match s with
    | '-' :: '-' :: _ => .error .unknownOption
    | _ => readShort specs (s.drop 1)

/-- Reads arguments. Unless options may stand behind operands, the first operand ends them. -/
def readArguments (specs : List OptionSpec) (mixed : Bool) :
    List String → Except UsageError Arguments
  | [] => .ok .none
  | word :: rest =>
    if word = "--" then .ok ⟨[], rest⟩
    else if isOption word then
      match readWord specs word with
      | .error e => .error e
      | .ok ⟨options, none⟩ =>
        (readArguments specs mixed rest).map (Arguments.withOptions options)
      | .ok ⟨options, some key⟩ =>
        match rest with
        | [] => .error .missingValue
        | value :: rest =>
          (readArguments specs mixed rest).map (Arguments.withOptions (options ++ [(key, value)]))
    else if mixed then (readArguments specs mixed rest).map (Arguments.withOperand word)
    else .ok ⟨[], word :: rest⟩

/-- The option that asks for help. -/
def helpOption : OptionSpec := ⟨"help", "--help", none, false⟩

/-- The option that names a backend. -/
def backendOption : OptionSpec := ⟨"backend", "--backend", some 'b', true⟩

/-- The options of the program. -/
def programOptions : List OptionSpec := [⟨"verbose", "--verbose", some 'v', false⟩, helpOption]

/-- The options of the command that inspects a schema. -/
def inspectOptions : List OptionSpec :=
  [backendOption, ⟨"json", "--json", none, false⟩, ⟨"workers", "--workers", some 'w', true⟩,
    ⟨"all", "--all", none, false⟩, helpOption]

/-- The options of the command that lists visitors. -/
def visitorsOptions : List OptionSpec := [backendOption, helpOption]

/-- What to inspect, and how. -/
structure InspectRequest where
  path : String
  backend : Option String
  json : Bool
  workers : Option Int
  includeEmpty : Bool
  deriving DecidableEq, Repr

/-- A command with its arguments, or the wish for help on it. -/
inductive Command where
  | help
  | inspect (request : InspectRequest)
  | visitors (backend : Option String)
  deriving DecidableEq, Repr

/-- Reads a whole number between 1 and 64, which may be written in any way that settings allow. -/
def readWorkers (s : String) : Except UsageError Int :=
  match IntegerText.read s with
  | .ok n => if n < 1 || 64 < n then .error .unusableNumber else .ok n
  | .error _ => .error .unusableNumber

/-- Reads the arguments of the command that inspects a schema. The path, with every `..` resolved,
must be that of a file. -/
def readInspect (directory : Directory) (words : List String) : Except UsageError Command := do
  let arguments ← readArguments inspectOptions true words
  if arguments.has "help" then return .help
  let workers ←
    match arguments.value? "workers" with
    | some s => (readWorkers s).map some
    | none => pure none
  match arguments.operands with
  | [] => .error .missingOperand
  | [operand] =>
    let path := resolvedPath operand
    match directory.read path with
    | .error _ => .error .unusablePath
    | .ok _ =>
      return .inspect {
        path := path
        backend := arguments.value? "backend"
        json := arguments.has "json"
        workers := workers
        includeEmpty := arguments.has "all" }
  | _ => .error .extraOperand

/-- Reads the arguments of the command that lists visitors. -/
def readVisitors (words : List String) : Except UsageError Command := do
  let arguments ← readArguments visitorsOptions true words
  if arguments.has "help" then return .help
  if arguments.operands.isEmpty then return .visitors (arguments.value? "backend")
  else .error .extraOperand

end SchemaWeaver.CommandLine
