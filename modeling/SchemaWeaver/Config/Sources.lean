import SchemaWeaver.Config.Basic
import SchemaWeaver.Config.Dotenv
import SchemaWeaver.Directory
import SchemaWeaver.Text.Lines

/-!
# Where settings come from

A setting is taken from the first source that has it: the keywords given in the program, the
environment, a settings file. In the environment and in a settings file its name carries a common
start. Names are compared without regard to case. An empty value is a value.
-/

namespace SchemaWeaver.Config

/-- The start of the name of a setting in the environment, in lower case. -/
def variableStart : String := "codegen_hooks_"

/-- The settings file that is read when no other is asked for. -/
def defaultFile : String := ".env"

/-- Why there are no settings. -/
inductive ReadError where
  | notUnicode
  | invalid (first : Issue) (rest : List Issue)
  deriving DecidableEq, Repr

/-- One character in lower case. Of the characters beyond ASCII only the Kelvin sign has an ASCII
letter for its lower case. -/
def lowerChar (c : Char) : Char := if c.toNat = 0x212A then 'k' else c.toLower

/-- A name in lower case. -/
def lowerName (name : String) : String := String.ofList (name.toList.map lowerChar)

/-- The value of a setting among keywords. Of two spellings of one name the earlier one counts. -/
def keywordValue? (keywords : Members) (setting : String) : Option Json :=
  (keywords.find? fun entry => lowerName entry.1 == setting).map Prod.snd

/-- The value of a setting among variables. Of two spellings of one name the later one counts. -/
def valueAmong? {α : Type} (bindings : OrderedMap α) (setting : String) : Option α :=
  (bindings.entries.reverse.find? fun entry =>
    lowerName entry.1 == variableStart ++ setting).map Prod.snd

/-- What the sources have to say about the settings. -/
structure Sources where
  keywords : Members
  environment : OrderedMap String
  file : OrderedMap (Option String)

namespace Sources

/-- The value of a setting in the first source that has it. -/
def value? (s : Sources) (setting : String) : Option Json :=
  (keywordValue? s.keywords setting).or <|
    (valueAmong? s.environment setting).map Json.str |>.or <|
      (valueAmong? s.file setting).join.map Json.str

/-- The settings that some source has, with their values. -/
def members (s : Sources) : Members :=
  names.filterMap fun setting => (s.value? setting).map fun value => (setting, value)

end Sources

/-- The bindings of the settings file under a path. What is no file binds nothing. -/
def fileBindings (directory : Directory) (path : String) :
    Except ReadError (List Dotenv.Binding) :=
  match directory.read path with
  | .error _ => .ok []
  | .ok bytes =>
    match String.fromUTF8? bytes with
    | some text =>
      .ok (Dotenv.read (String.ofList (Text.unixNewlines (Text.dropByteOrderMark text.toList))))
    | none => .error .notUnicode

/-- The settings file that the keywords ask for: another one, or none at all. -/
def fileName? (keywords : Members) : Option String :=
  match keywords.lookup "_env_file" with
  | none => some defaultFile
  | some (.str name) => some name
  | some _ => none

/-- The surroundings in which settings are read: variables and files. -/
structure Surroundings where
  environment : OrderedMap String
  directory : Directory

/-- Reads the settings from all sources. -/
def read (keywords : Members) (around : Surroundings) : Except ReadError Config := do
  let bindings ←
    match fileName? keywords with
    | some path => fileBindings around.directory path
    | none => .ok []
  let file := Dotenv.resolve around.environment.find? bindings
  match check (Sources.members ⟨keywords, around.environment, file⟩) with
  | .valid config => .ok config
  | .invalid first rest => .error (.invalid first rest)

/-- The settings of a program, which are read once and kept. Every reading that succeeds makes a
new copy, and the copies are numbered. -/
structure Store where
  copies : Nat
  kept : Option (Nat × Config)

namespace Store

/-- A store that has read nothing. -/
def empty : Store := ⟨0, none⟩

/-- The kept settings and their number; they are read when none are kept. -/
def get (store : Store) (around : Surroundings) : Except ReadError (Nat × Config) × Store :=
  match store.kept with
  | some kept => (.ok kept, store)
  | none =>
    match read [] around with
    | .error e => (.error e, store)
    | .ok config =>
      let kept := (store.copies, config)
      (.ok kept, ⟨store.copies + 1, some kept⟩)

/-- Forgets the kept settings and reads them again. -/
def reload (store : Store) (around : Surroundings) : Except ReadError (Nat × Config) × Store :=
  get { store with kept := none } around

end Store

end SchemaWeaver.Config
