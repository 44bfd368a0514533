import SchemaWeaver.Directives
import SchemaWeaver.Text.Literal

/-!
# Rust attributes

Attributes are rendered from payloads: arguments of the form `key = "literal"` in a fixed order of
keys, and the deprecation attribute in its three forms.
-/

namespace SchemaWeaver.Attribute

/-- An attribute with the given content. -/
def wrap (content : String) : String := "#[" ++ content ++ "]"

/-- A key and a string literal. -/
def assignment (key value : String) : String :=
  key ++ " = \"" ++ Text.Literal.escape value ++ "\""

/-- An attribute with arguments. -/
def call (name : String) (arguments : List String) : String :=
  wrap (name ++ "(" ++ Text.commaJoined arguments ++ ")")

/-- The options under the given keys as arguments, in the order of the keys. -/
def assignments (keys : List String) (payload : Payload) : List String :=
  keys.filterMap fun key => (payload.get? key).map (assignment key)

/-- The keys of a deprecation. -/
def deprecationKeys : List String := ["since", "note"]

/-- The deprecation attribute of a payload: with arguments when there are options, else with the
texts that are not blank, else bare. A payload with foreign keys, or with options and a text at
once, has none. -/
def deprecation? (payload : Payload) : Option String :=
  let notes := payload.trimmedValues
  if payload.options.isEmpty then
    if notes.isEmpty then some (wrap "deprecated")
    else some (wrap (assignment "deprecated" (Text.commaJoined notes)))
  else if payload.optionsWithin deprecationKeys && notes.isEmpty then
    some (call "deprecated" (assignments deprecationKeys payload))
  else none

/-- The arguments of a serialization attribute, or nothing when a text is not blank or a key is
foreign. -/
def serdeArguments? (allowed : List String) (payload : Payload) : Option (List String) :=
  if payload.values.all Text.isBlankText && payload.optionsWithin allowed then
    some (assignments allowed payload)
  else none

/-- The keys of a member that are given as flags. -/
def serdeFlags : List String := ["skip", "default"]

/-- The truth value that a text spells, in any case. -/
def spelledFlag? (s : String) : Option Bool :=
  let lowered := String.ofList (s.toList.map Char.toLower)
  if lowered = "true" then some true else if lowered = "false" then some false else none

/-- The flags that are set, or nothing when some flag spells no truth value. -/
def setFlags? (payload : Payload) : List String → Option (List String)
  | [] => some []
  | key :: others => do
    let set ← match payload.get? key with
      | none => some false
      | some value => spelledFlag? value
    let rest ← setFlags? payload others
    return if set then key :: rest else rest

/-- The arguments of the serialization attribute of a field or case, or nothing when the payload is
malformed. -/
def serdeMemberArguments? (payload : Payload) : Option (List String) :=
  if (serdeArguments? ("rename" :: serdeFlags) payload).isSome then
    (setFlags? payload serdeFlags).map fun flags => assignments ["rename"] payload ++ flags
  else none

end SchemaWeaver.Attribute
