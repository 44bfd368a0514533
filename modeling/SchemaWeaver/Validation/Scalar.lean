import SchemaWeaver.Json.Basic
import SchemaWeaver.Number.IntegerText
import SchemaWeaver.Validation.Checked

/-!
# Checking JSON values

The checks that models and settings are made of: texts, lists, maps, integers, flags and choices.
A check for integers is generous about spelling: integers may also be given as flags, as binary
numbers without a fraction and as text.
-/

namespace SchemaWeaver

/-- The members of an object, by name. -/
abbrev Members := List (String × Json)

namespace Check

open SchemaWeaver.Checked

/-- A text. -/
def text : Json → Checked String
  | .str value => valid value
  | _ => refuse .notText

/-- A text, or `null` for none. -/
def text? : Json → Checked (Option String)
  | .null => valid none
  | value => (text value).map some

/-- A text that names one of the given options. -/
def choice {α : Type} (options : List (String × α)) : Json → Checked α
  | .str value =>
    match options.lookup value with
    | some option => valid option
    | none => refuse (.notOneOf (options.map Prod.fst))
  | _ => refuse (.notOneOf (options.map Prod.fst))

/-- The elements of a list, checked one by one and numbered from `start`. -/
def each {α : Type} (item : Json → Checked α) (start : Nat) : List Json → Checked (List α)
  | [] => valid []
  | element :: others =>
    List.cons <$> (item element).under (.index start) <*> each item (start + 1) others

/-- A list of things. -/
def listOf {α : Type} (item : Json → Checked α) : Json → Checked (List α)
  | .arr elements => each item 0 elements
  | _ => refuse .notList

/-- Texts under names, checked one by one. -/
def textMembers : Members → Checked (List (String × String))
  | [] => valid []
  | (name, value) :: others =>
    List.cons <$> ((text value).under (.key name)).map (fun checked => (name, checked)) <*>
      textMembers others

/-- A map from names to texts. -/
def textMap : Json → Checked (OrderedMap String)
  | .obj members => (textMembers members).map OrderedMap.ofList
  | _ => refuse .notMap

/-- The members of the object that stands for a model. -/
def model {α : Type} (name : String) (fields : Members → Checked α) :
    Json → Checked α
  | .obj members => fields members
  | _ => refuse (.notModel name)

/-- A member that must be there. -/
def required {α : Type} (name : String) (check : Json → Checked α)
    (members : Members) : Checked α :=
  match members.lookup name with
  | none => (refuse .missing).under (.key name)
  | some value => (check value).under (.key name)

/-- A member that takes a default when it is absent. -/
def optional {α : Type} (name : String) (default : α) (check : Json → Checked α)
    (members : Members) : Checked α :=
  match members.lookup name with
  | none => valid default
  | some value => (check value).under (.key name)

/-- The bound that binary numbers must stay strictly below, in magnitude, to count as integers. -/
def binaryIntegerBound : Nat := Nat.pow 2 63

/-- An integer given as a binary number. -/
def integerOfBinary (x : Binary64) : Checked Int :=
  match x with
  | .finite _ _ _ =>
    match x.toInt? with
    | none => refuse .fractionalInteger
    | some n => if n.natAbs < binaryIntegerBound then valid n else refuse .oversizedInteger
  | _ => refuse .notFinite

/-- An integer given as text. -/
def integerOfText (s : String) : Checked Int :=
  match IntegerText.read s with
  | .ok n => valid n
  | .error .malformed => refuse .malformedInteger
  | .error .tooLong => refuse .oversizedInteger

/-- An integer of any size. -/
def integer : Json → Checked Int
  | .int n => valid n
  | .bool value => valid (if value then 1 else 0)
  | .float x => integerOfBinary x
  | .str s => integerOfText s
  | _ => refuse .notInteger

/-- An integer that is not negative. -/
def natural (value : Json) : Checked Nat :=
  (integer value).andThen fun n => if n < 0 then refuse (.below 0) else valid n.toNat

/-- An integer between two bounds, both included. -/
def naturalBetween (minimum maximum : Nat) (value : Json) : Checked Nat :=
  (integer value).andThen fun n =>
    if n < minimum then refuse (.below minimum)
    else if (maximum : Int) < n then refuse (.above maximum)
    else valid n.toNat

/-- The texts that mean yes, in lower case. -/
def yesTexts : List String := ["1", "true", "t", "yes", "y", "on"]

/-- The texts that mean no, in lower case. -/
def noTexts : List String := ["0", "false", "f", "no", "n", "off"]

/-- A flag given as an integer. -/
def flagOfInteger (n : Int) : Checked Bool :=
  if n = 1 then valid true
  else if n = 0 then valid false
  else if -Int.ofNat binaryIntegerBound ≤ n && n < binaryIntegerBound then refuse .unclearFlag
  else refuse .notFlag

/-- A flag given as text, in any case. -/
def flagOfText (s : String) : Checked Bool :=
  let lowered := String.ofList (s.toList.map Char.toLower)
  if lowered ∈ yesTexts then valid true
  else if lowered ∈ noTexts then valid false
  else refuse .unclearFlag

/-- A flag. -/
def flag : Json → Checked Bool
  | .bool value => valid value
  | .int n => flagOfInteger n
  | .str s => flagOfText s
  | .float x =>
    match (integerOfBinary x).value? with
    | some n => flagOfInteger n
    | none => refuse .notFlag
  | _ => refuse .notFlag

end Check

end SchemaWeaver
