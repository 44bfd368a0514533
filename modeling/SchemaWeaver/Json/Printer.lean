import SchemaWeaver.Json.Basic
import SchemaWeaver.Number.IntegerText
import SchemaWeaver.Number.Shortest
import SchemaWeaver.Text.Quoted
import SchemaWeaver.Text.Segments

/-!
# Writing JSON values

Two ways to write a value. A document is written with one element or member a line and two spaces
of indentation a level; inside strings only the quote, the backslash and the control characters
are escaped. In a message a value is shown on one line: a text as it stands, and any other value
with quoted texts inside.
-/

namespace SchemaWeaver.Json

open SchemaWeaver.Text

/-- One character inside a string. -/
def escapeChar (c : Char) : List Char :=
  if c = '"' then ['\\', '"']
  else if c = '\\' then ['\\', '\\']
  else if c = '\n' then ['\\', 'n']
  else if c = '\r' then ['\\', 'r']
  else if c = '\t' then ['\\', 't']
  else if c = '\x08' then ['\\', 'b']
  else if c = '\x0c' then ['\\', 'f']
  else if c.toNat < 0x20 then '\\' :: 'u' :: Quoted.hexDigits 4 c.toNat
  else [c]

/-- A text as a JSON string. -/
def writeString (text : String) : List Char :=
  '"' :: text.toList.flatMap escapeChar ++ ['"']

/-- A binary number in a document. -/
def writeFloat : Binary64 → List Char
  | .nan => "NaN".toList
  | .infinite negative => if negative then "-Infinity".toList else "Infinity".toList
  | x => x.display.toList

/-- A line end and the indentation of a level. -/
def lineBreak (level : Nat) : List Char :=
  '\n' :: List.replicate (2 * level) ' '

mutual

/-- Writes a value that starts on a line of the given level. -/
def write (level : Nat) : Json → List Char
  | null => "null".toList
  | bool value => if value then "true".toList else "false".toList
  | int value => IntegerText.digits value
  | float value => writeFloat value
  | str value => writeString value
  | arr [] => ['[', ']']
  | arr (first :: others) =>
    '[' :: lineBreak (level + 1) ++ write (level + 1) first ++ writeElements (level + 1) others ++
      lineBreak level ++ [']']
  | obj [] => ['{', '}']
  | obj ((name, value) :: others) =>
    '{' :: lineBreak (level + 1) ++ writeString name ++ [':', ' '] ++ write (level + 1) value ++
      writeMembers (level + 1) others ++ lineBreak level ++ ['}']

/-- Writes the elements after the first. -/
def writeElements (level : Nat) : List Json → List Char
  | [] => []
  | element :: others =>
    ',' :: lineBreak level ++ write level element ++ writeElements level others

/-- Writes the members after the first. -/
def writeMembers (level : Nat) : List (String × Json) → List Char
  | [] => []
  | (name, value) :: others =>
    ',' :: lineBreak level ++ writeString name ++ [':', ' '] ++ write level value ++
      writeMembers level others

end

/-- A value as an indented document. -/
def pretty (value : Json) : String :=
  String.ofList (write 0 value)

mutual

/-- A value inside a message, with quoted texts. -/
def displayNested : Json → String
  | null => "None"
  | bool value => if value then "True" else "False"
  | int value => IntegerText.write value
  | float value => value.display
  | str value => Quoted.display value
  | arr elements => "[" ++ Text.commaJoined (displayElements elements) ++ "]"
  | obj members => "\x7b" ++ Text.commaJoined (displayMembers members) ++ "\x7d"

/-- The elements of an array inside a message. -/
def displayElements : List Json → List String
  | [] => []
  | element :: others => displayNested element :: displayElements others

/-- The members of an object inside a message. -/
def displayMembers : List (String × Json) → List String
  | [] => []
  | (name, value) :: others =>
    (Quoted.display name ++ ": " ++ displayNested value) :: displayMembers others

end

/-- A value inside a message: a text as it stands, any other value as a nested one. -/
def display : Json → String
  | str value => value
  | value => displayNested value

end SchemaWeaver.Json
