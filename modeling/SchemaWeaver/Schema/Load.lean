import SchemaWeaver.Directory
import SchemaWeaver.Json.Reader
import SchemaWeaver.Schema.Decode
import SchemaWeaver.Text.Quoted

/-!
# Loading schemas

A schema is loaded from the text of a JSON document, or from a file that holds one. Loading fails
with the first fault of the text, or with all issues of the value that the text stands for.
-/

namespace SchemaWeaver

/-- Why a schema is not loaded. -/
inductive LoadError where
  | unusablePath
  | unreadable (path : String) (fault : FileFault)
  | notUnicode
  | malformed (fault : Json.Fault) (place : Text.Place)
  | beyond (limit : Json.Limit)
  | invalid (first : Issue) (rest : List Issue)
  deriving DecidableEq, Repr

namespace LoadError

/-- What a load error says: a headline and details. A path that no file can have, an undecodable
file and a text beyond the limits of the reader have neither. -/
def report? : LoadError → Option (String × String)
  | unreadable path fault =>
    some ("Cannot read schema file " ++ path, fault.message ++ ": " ++ Text.Quoted.display path)
  | malformed fault place =>
    some ("Invalid JSON format",
      "Line " ++ IntegerText.write place.line ++ ", column " ++ IntegerText.write place.column ++
        ": " ++ fault.message)
  | invalid first rest => some ("Schema validation failed", Issue.renderAll (first :: rest))
  | unusablePath | notUnicode | beyond _ => none

end LoadError

namespace Schema

/-- Loads a schema from the text of a document. -/
def load (text : String) : Except LoadError Schema :=
  match Json.parse text with
  | .error (.malformed fault place) => .error (.malformed fault place)
  | .error (.beyond limit) => .error (.beyond limit)
  | .ok value =>
    match Schema.check value with
    | .valid schema => .ok schema
    | .invalid first rest => .error (.invalid first rest)

/-- Loads a schema from the bytes of a file, which hold UTF-8 text with any line ends. -/
def loadBytes (bytes : ByteArray) : Except LoadError Schema :=
  match String.fromUTF8? bytes with
  | none => .error .notUnicode
  | some text => load (String.ofList (Text.unixNewlines text.toList))

/-- Loads a schema from the file under a path. No path holds a null character. -/
def loadFile (directory : Directory) (path : String) : Except LoadError Schema :=
  if path.toList.contains '\x00' then .error .unusablePath
  else
    match directory.read path with
    | .ok bytes => loadBytes bytes
    | .error fault => .error (.unreadable (plainPath path) fault)

end Schema

end SchemaWeaver
