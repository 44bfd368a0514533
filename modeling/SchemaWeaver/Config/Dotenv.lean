import SchemaWeaver.OrderedMap
import SchemaWeaver.Text.Blank

/-!
# Settings files

A settings file binds names to values, a line each: `NAME=value`, perhaps after the word `export`.
White space around the equals sign and after the value is dropped, and so is a comment, which
starts at a hash sign after white space. A value between quotes is taken as it stands, line ends
included, up to escapes; a name without an equals sign is bound to nothing. Lines that are none of
this are passed over.

A value may refer to names bound before it, and to variables of the environment, by `${NAME}` or by
`${NAME:-value to take when NAME is unbound}`.
-/

namespace SchemaWeaver.Dotenv

open SchemaWeaver.Text

/-- A name and the value that it is bound to, if any. -/
abbrev Binding := String × Option String

/-- White space inside a line. -/
def isInlineBlank (c : Char) : Bool := isBlank c && c != '\n' && c != '\r'

/-- The rest of a text behind its first line. -/
def nextLine (s : List Char) : List Char := (s.dropWhile (· ≠ '\n')).drop 1

/-- What is left behind the word `export` and the white space that follows it. -/
def dropExport (s : List Char) : List Char :=
  match s with
  | 'e' :: 'x' :: 'p' :: 'o' :: 'r' :: 't' :: c :: rest =>
    if isInlineBlank c then rest.dropWhile isInlineBlank else s
  | _ => s

/-- Reads a name: between single quotes, or up to white space, an equals sign or a hash sign. -/
def readName (s : List Char) : Option (List Char × List Char) :=
  let isPlain (c : Char) := c != '=' && c != '#' && !isBlank c
  match s with
  | '\'' :: rest =>
    match rest.takeWhile (· ≠ '\''), rest.dropWhile (· ≠ '\'') with
    | name@(_ :: _), _ :: rest => some (name, rest)
    | _, _ => none
  | _ =>
    match s.takeWhile isPlain with
    | [] => none
    | name => some (name, s.dropWhile isPlain)

/-- The character that an escape between double quotes stands for. -/
def escaped? : Char → Option Char
  | '\\' => some '\\'
  | '\'' => some '\''
  | '"' => some '"'
  | 'a' => some '\x07'
  | 'b' => some '\x08'
  | 'f' => some '\x0c'
  | 'n' => some '\n'
  | 'r' => some '\r'
  | 't' => some '\t'
  | 'v' => some '\x0b'
  | _ => none

/-- Replaces the escapes of a quoted value. Between single quotes only the backslash and the single
quote can be escaped. -/
def unescape (quote : Char) : List Char → List Char
  | '\\' :: c :: rest =>
    match escaped? c with
    | some meant =>
      if quote = '"' || c = '\\' || c = '\'' then meant :: unescape quote rest
      else '\\' :: c :: unescape quote rest
    | none => '\\' :: c :: unescape quote rest
  | c :: rest => c :: unescape quote rest
  | [] => []

/-- Splits a text at the first quote that is not escaped. A backslash escapes the character behind
it, whatever that is. -/
def readQuoted (quote : Char) : List Char → Option (List Char × List Char)
  | [] => none
  | '\\' :: c :: rest => (readQuoted quote rest).map fun (value, r) => ('\\' :: c :: value, r)
  | c :: rest =>
    if c = quote then some ([], rest)
    else (readQuoted quote rest).map fun (value, r) => (c :: value, r)

/-- Cuts a line off where white space is followed by a hash sign. -/
def dropComment : List Char → List Char
  | [] => []
  | c :: rest =>
    if isBlank c && (rest.dropWhile isBlank).head? == some '#' then []
    else c :: dropComment rest

/-- Reads a value behind its equals sign: between quotes, or the line without its comment. -/
def readValue (s : List Char) : Option (List Char × List Char) :=
  let quoted (quote : Char) (rest : List Char) :=
    (readQuoted quote rest).map fun (value, r) => (unescape quote value, r)
  match s.dropWhile isInlineBlank with
  | '\'' :: rest => quoted '\'' rest
  | '"' :: rest => quoted '"' rest
  | _ => some (trimmed (dropComment (s.takeWhile (· ≠ '\n'))), s.dropWhile (· ≠ '\n'))

/-- Passes over a comment and the end of the line, when nothing else is left of it. -/
def endLine (s : List Char) : Option (List Char) :=
  match s.dropWhile isInlineBlank with
  | [] => some []
  | '\n' :: rest => some rest
  | '#' :: rest => some (nextLine rest)
  | _ => none

/-- Reads one binding from a text that does not start with white space, and tells where the next
one may start. -/
def readBinding (s : List Char) : Option Binding × List Char :=
  let s := dropExport s
  match s with
  | '#' :: rest => (none, nextLine rest)
  | _ =>
    match readName s with
    | none => (none, nextLine s)
    | some (name, afterName) =>
      let (value?, afterValue) := match afterName.dropWhile isInlineBlank with
        | '=' :: rest =>
          match readValue rest with
          | some (value, r) => (some (some (String.ofList value)), r)
          | none => (none, rest)
        | r => (some none, r)
      match value?, endLine afterValue with
      | some value, some rest => (some (String.ofList name, value), rest)
      | _, _ => (none, nextLine afterValue)

/-- Reads at most `fuel` bindings. -/
def readBindings : (fuel : Nat) → List Char → List Binding
  | 0, _ => []
  | fuel + 1, s =>
    match s.dropWhile isBlank with
    | [] => []
    | s =>
      let (binding?, rest) := readBinding s
      binding?.toList ++ readBindings fuel rest

/-- The bindings of a settings file, in order, as they are written. Every binding takes at least one
character. -/
def read (text : String) : List Binding := readBindings text.length text.toList

/-- A reference to a name: the name, and the value to take when it is unbound. -/
structure Reference where
  name : String
  default : String
  deriving DecidableEq, Repr

/-- One piece of a value: a character that stands for itself, or a reference. -/
inductive Piece where
  | plain (c : Char)
  | reference (r : Reference)
  deriving DecidableEq, Repr

/-- Reads a reference behind its dollar sign and opening brace. -/
def readReference (s : List Char) : Option (Reference × List Char) :=
  let isName (c : Char) := c != '\x7d' && c != ':'
  let name := String.ofList (s.takeWhile isName)
  match s.dropWhile isName with
  | '\x7d' :: rest => some (⟨name, ""⟩, rest)
  | ':' :: '-' :: rest =>
    match rest.dropWhile (· ≠ '\x7d') with
    | _ :: after => some (⟨name, String.ofList (rest.takeWhile (· ≠ '\x7d'))⟩, after)
    | [] => none
  | _ => none

/-- Splits at most `fuel` pieces off a value. -/
def readPieces : (fuel : Nat) → List Char → List Piece
  | 0, _ => []
  | _, [] => []
  | fuel + 1, c :: rest =>
    let reference? := match c, rest with
      | '$', '\x7b' :: s => readReference s
      | _, _ => none
    match reference? with
    | some (r, after) => .reference r :: readPieces fuel after
    | none => .plain c :: readPieces fuel rest

/-- The pieces of a value. Every piece takes at least one character. -/
def pieces (value : String) : List Piece := readPieces value.length value.toList

/-- The text that a piece stands for, where names have the given values. A name that is bound to
nothing stands for the empty text. -/
def Piece.text (lookup : String → Option (Option String)) : Piece → String
  | plain c => c.toString
  | reference r => ((lookup r.name).getD (some r.default)).getD ""

/-- A value with its references replaced. -/
def expand (lookup : String → Option (Option String)) (value : String) : String :=
  String.join ((pieces value).map (Piece.text lookup))

/-- The names with their values. Names bound before a value come before the environment in it, and a
name that is bound twice has the later value. -/
def resolve (environment : String → Option String) (bindings : List Binding) :
    OrderedMap (Option String) :=
  bindings.foldl (fun bound binding =>
    let lookup (name : String) := (bound.find? name).or ((environment name).map some)
    bound.insert binding.1 (binding.2.map (expand lookup))) ∅

/-- The names that the values of bindings refer to. -/
def references (bindings : List Binding) : List String :=
  (bindings.filterMap Prod.snd).flatMap fun value =>
    (pieces value).filterMap fun
      | .plain _ => none
      | .reference r => some r.name

end SchemaWeaver.Dotenv
