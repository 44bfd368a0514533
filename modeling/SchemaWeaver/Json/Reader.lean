import SchemaWeaver.Json.Basic
import SchemaWeaver.Number.IntegerText
import SchemaWeaver.Text.Lines

/-!
# Reading JSON text

The reader accepts the JSON grammar with three more numbers: `NaN`, `Infinity` and `-Infinity`.
When a name occurs twice in an object the last value counts. A text that is refused is refused at
a place, with the reason that the reader met first. The only other reasons are the limits of the
reader: on the digits of an integer and on the depth of nesting.

Strings are made of characters. An escape can name half of a surrogate pair on its own, which is no
character. It is read as the replacement character, so strings that hold a lone half are outside of
what is modelled.

Every step works on what is left of the text, so a place is known from the length of the rest.
-/

namespace SchemaWeaver.Json

open SchemaWeaver.Text

/-- What is wrong with a text at some place. -/
inductive Fault where
  | byteOrderMark
  | expectedValue
  | expectedName
  | expectedColon
  | expectedComma
  | extraData
  | unterminatedString
  | controlCharacter
  | badEscape
  | badUnicodeEscape
  deriving DecidableEq, Repr

/-- The wording of a fault. -/
def Fault.message : Fault → String
  | byteOrderMark => "Unexpected UTF-8 BOM (decode using utf-8-sig)"
  | expectedValue => "Expecting value"
  | expectedName => "Expecting property name enclosed in double quotes"
  | expectedColon => "Expecting ':' delimiter"
  | expectedComma => "Expecting ',' delimiter"
  | extraData => "Extra data"
  | unterminatedString => "Unterminated string starting at"
  | controlCharacter => "Invalid control character at"
  | badEscape => "Invalid \\escape"
  | badUnicodeEscape => "Invalid \\uXXXX escape"

/-- What the reader is not willing to do: to convert an integer with too many digits, and to go into
an array or an object that is nested too deeply. -/
inductive Limit where
  | integerDigits
  | nesting
  deriving DecidableEq, Repr

/-- Why reading stopped, with the rest of the text at the offending place. -/
inductive Stop where
  | fault (reason : Fault) (rest : List Char)
  | beyond (limit : Limit)
  deriving DecidableEq, Repr

/-- Why a text is not read. -/
inductive ReadError where
  | malformed (reason : Fault) (place : Place)
  | beyond (limit : Limit)
  deriving DecidableEq, Repr

/-- The outcome of a step of the reader, as a rule a result and the rest of the text. -/
abbrev Reading := Except Stop

/-- The most digits of an integer that is converted. -/
def maxIntegerDigits : Nat := 4300

/-- The most arrays and objects that may stand one inside the other. -/
def maxDepth : Nat := 990

/-- The white space between tokens. -/
def isSpace (c : Char) : Bool :=
  c == ' ' || c == '\t' || c == '\n' || c == '\r'

/-- Drops white space at the front. -/
def skipSpace (s : List Char) : List Char :=
  s.dropWhile isSpace

/-- The value of a hexadecimal digit. -/
def hexValue? (c : Char) : Option Nat :=
  if '0' ≤ c && c ≤ '9' then some (c.toNat - '0'.toNat)
  else if 'a' ≤ c && c ≤ 'f' then some (c.toNat - 'a'.toNat + 10)
  else if 'A' ≤ c && c ≤ 'F' then some (c.toNat - 'A'.toNat + 10)
  else none

/-- The value of four hexadecimal digits. -/
def hexQuad? (a b c d : Char) : Option Nat := do
  let a ← hexValue? a
  let b ← hexValue? b
  let c ← hexValue? c
  let d ← hexValue? d
  return ((a * 16 + b) * 16 + c) * 16 + d

/-- The character that a one-letter escape stands for. -/
def simpleEscape? : Char → Option Char
  | '"' => some '"'
  | '\\' => some '\\'
  | '/' => some '/'
  | 'b' => some '\x08'
  | 'f' => some '\x0c'
  | 'n' => some '\n'
  | 'r' => some '\r'
  | 't' => some '\t'
  | _ => none

/-- The first half of a pair of UTF-16 units. -/
def isHighUnit (n : Nat) : Bool := 0xD800 ≤ n && n ≤ 0xDBFF

/-- The second half of a pair of UTF-16 units. -/
def isLowUnit (n : Nat) : Bool := 0xDC00 ≤ n && n ≤ 0xDFFF

/-- The character of a pair of UTF-16 units. -/
def pairedChar (high low : Nat) : Char :=
  Char.ofNat (0x10000 + (high - 0xD800) * 0x400 + (low - 0xDC00))

/-- The character of one UTF-16 unit. Half of a pair is no character and becomes the replacement
character. -/
def unitChar (n : Nat) : Char :=
  if isHighUnit n || isLowUnit n then '\uFFFD' else Char.ofNat n

/-- The text of a list of code units: two halves in a row make one character. -/
def joinUnits : List Nat → List Char
  | [] => []
  | [unit] => [unitChar unit]
  | first :: second :: rest =>
    if isHighUnit first && isLowUnit second then pairedChar first second :: joinUnits rest
    else unitChar first :: joinUnits (second :: rest)

/-- Reads a string up to its closing quote into code units. The opening quote and all behind it
are given, since a string without an end is reported at its start. A `\u` escape must be followed
by at least one more character. -/
def readUnits (opening : List Char) : List Char → Reading (List Nat × List Char)
  | [] => .error (.fault .unterminatedString opening)
  | '"' :: rest => .ok ([], rest)
  | '\\' :: [] => .error (.fault .unterminatedString opening)
  | '\\' :: 'u' :: a :: b :: c :: d :: next :: rest =>
    match hexQuad? a b c d with
    | none => .error (.fault .badUnicodeEscape ('u' :: a :: b :: c :: d :: next :: rest))
    | some unit => (readUnits opening (next :: rest)).map fun (units, r) => (unit :: units, r)
  | '\\' :: c :: rest =>
    if c = 'u' then .error (.fault .badUnicodeEscape (c :: rest))
    else
      match simpleEscape? c with
      | none => .error (.fault .badEscape ('\\' :: c :: rest))
      | some meant =>
        (readUnits opening rest).map fun (units, r) => (meant.toNat :: units, r)
  | c :: rest =>
    if c.toNat ≤ 0x1F then .error (.fault .controlCharacter (c :: rest))
    else (readUnits opening rest).map fun (units, r) => (c.toNat :: units, r)

/-- Reads a string up to its closing quote. -/
def readString (opening s : List Char) : Reading (String × List Char) :=
  (readUnits opening s).map fun (units, rest) => (String.ofList (joinUnits units), rest)

/-- The digits of a fraction, when a point and a digit stand at the front. -/
def readFraction : List Char → List Char × List Char
  | '.' :: rest =>
    match rest.takeWhile Char.isDigit with
    | [] => ([], '.' :: rest)
    | digits => (digits, rest.dropWhile Char.isDigit)
  | s => ([], s)

/-- The exponent, when its letter, perhaps a sign, and a digit stand at the front. -/
def readExponent (s : List Char) : Option Int × List Char :=
  match s with
  | letter :: rest =>
    if letter = 'e' || letter = 'E' then
      let (negative, body) := match rest with
        | '-' :: body => (true, body)
        | '+' :: body => (false, body)
        | _ => (false, rest)
      match body.takeWhile Char.isDigit with
      | [] => (none, s)
      | digits =>
        let magnitude : Int := IntegerText.digitsValue digits
        (some (if negative then -magnitude else magnitude), body.dropWhile Char.isDigit)
    else (none, s)
  | [] => (none, s)

/-- The digits of a whole part: a zero, or digits that do not start with one. -/
def readWhole : List Char → List Char × List Char
  | '0' :: rest => (['0'], rest)
  | s => (s.takeWhile Char.isDigit, s.dropWhile Char.isDigit)

/-- Reads a number. A fraction or an exponent makes it a binary one. -/
def readNumber (s : List Char) : Reading (Json × List Char) :=
  let (negative, body) := match s with
    | '-' :: body => (true, body)
    | _ => (false, s)
  match readWhole body with
  | ([], _) => .error (.fault .expectedValue s)
  | (whole, afterWhole) =>
    let (fraction, afterFraction) := readFraction afterWhole
    let (exponent?, rest) := readExponent afterFraction
    if fraction.isEmpty && exponent?.isNone then
      if whole.length > maxIntegerDigits then .error (.beyond .integerDigits)
      else
        let magnitude : Int := IntegerText.digitsValue whole
        .ok (.int (if negative then -magnitude else magnitude), rest)
    else
      let exponent := exponent?.getD 0 - Int.ofNat fraction.length
      .ok (.float (.ofDecimal negative (IntegerText.digitsValue (whole ++ fraction)) exponent),
        rest)

/-- Reads one of the words that are values. -/
def readWord? : List Char → Option (Json × List Char)
  | 'n' :: 'u' :: 'l' :: 'l' :: rest => some (.null, rest)
  | 't' :: 'r' :: 'u' :: 'e' :: rest => some (.bool true, rest)
  | 'f' :: 'a' :: 'l' :: 's' :: 'e' :: rest => some (.bool false, rest)
  | 'N' :: 'a' :: 'N' :: rest => some (.float .nan, rest)
  | 'I' :: 'n' :: 'f' :: 'i' :: 'n' :: 'i' :: 't' :: 'y' :: rest =>
    some (.float (.infinite false), rest)
  | '-' :: 'I' :: 'n' :: 'f' :: 'i' :: 'n' :: 'i' :: 't' :: 'y' :: rest =>
    some (.float (.infinite true), rest)
  | _ => none

mutual

/-- Reads a value. The fuel bounds the depth of calls, the room the depth of nesting. -/
def readValue : (fuel room : Nat) → List Char → Reading (Json × List Char)
  | 0, _, s => .error (.fault .expectedValue s)
  | fuel + 1, room, s =>
    match s, room with
    | '"' :: rest, _ => do
      let (text, rest) ← readString s rest
      return (.str text, rest)
    | '{' :: _, 0 | '[' :: _, 0 => .error (.beyond .nesting)
    | '{' :: rest, room + 1 =>
      match skipSpace rest with
      | '}' :: rest => .ok (.obj [], rest)
      | inside => do
        let (members, rest) ← readMembers fuel room inside
        return (.ofMembers members, rest)
    | '[' :: rest, room + 1 =>
      match skipSpace rest with
      | ']' :: rest => .ok (.arr [], rest)
      | inside => do
        let (elements, rest) ← readElements fuel room inside
        return (.arr elements, rest)
    | _, _ =>
      match readWord? s with
      | some found => .ok found
      | none => readNumber s

/-- Reads the elements of an array that has at least one, up to the closing bracket. -/
def readElements : (fuel room : Nat) → List Char → Reading (List Json × List Char)
  | 0, _, s => .error (.fault .expectedValue s)
  | fuel + 1, room, s => do
    let (value, rest) ← readValue fuel room s
    match skipSpace rest with
    | ']' :: rest => return ([value], rest)
    | ',' :: rest =>
      let (others, rest) ← readElements fuel room (skipSpace rest)
      return (value :: others, rest)
    | rest => .error (.fault .expectedComma rest)

/-- Reads the members of an object that has at least one, up to the closing brace. -/
def readMembers : (fuel room : Nat) → List Char → Reading (List (String × Json) × List Char)
  | 0, _, s => .error (.fault .expectedName s)
  | fuel + 1, room, s =>
    match s with
    | '"' :: rest => do
      let (name, rest) ← readString s rest
      match skipSpace rest with
      | ':' :: rest =>
        let (value, rest) ← readValue fuel room (skipSpace rest)
        let member := (name, value)
        match skipSpace rest with
        | '}' :: rest => return ([member], rest)
        | ',' :: rest =>
          let (others, rest) ← readMembers fuel room (skipSpace rest)
          return (member :: others, rest)
        | rest => .error (.fault .expectedComma rest)
      | rest => .error (.fault .expectedColon rest)
    | _ => .error (.fault .expectedName s)

end

/-- Reads a whole document. Two calls go with every character at most, which bounds the fuel. -/
def readDocument (s : List Char) : Reading Json :=
  match s with
  | '\uFEFF' :: _ => .error (.fault .byteOrderMark s)
  | _ =>
    match readValue (2 * s.length + 2) maxDepth (skipSpace s) with
    | .error stop => .error stop
    | .ok (value, rest) =>
      match skipSpace rest with
      | [] => .ok value
      | rest => .error (.fault .extraData rest)

/-- Reads a JSON document from a text. -/
def parse (text : String) : Except ReadError Json :=
  let s := text.toList
  match readDocument s with
  | .ok value => .ok value
  | .error (.beyond limit) => .error (.beyond limit)
  | .error (.fault reason rest) =>
    .error (.malformed reason (Place.after (s.take (s.length - rest.length))))

end SchemaWeaver.Json
