import SchemaWeaver.Number.Binary64
import SchemaWeaver.OrderedMap

/-!
# JSON values

A document is a tree of JSON values. Integers are exact and of any size; every other number is a
binary floating-point number, among them the infinities and the one that is not a number. The
members of an object keep the order in which their names first stood.
-/

namespace SchemaWeaver

/-- A JSON value. -/
inductive Json where
  | null
  | bool (value : Bool)
  | int (value : Int)
  | float (value : Binary64)
  | str (value : String)
  | arr (elements : List Json)
  | obj (members : List (String × Json))

namespace Json

instance : Inhabited Json := ⟨null⟩

/-- The members of an object as written, with the last value of each name in the place of its
first. -/
def ofMembers (members : List (String × Json)) : Json :=
  obj (members.foldl (fun entries member => upsert member.1 member.2 entries) [])

/-- A list of texts as an array. -/
def ofTexts (texts : List String) : Json :=
  arr (texts.map str)

/-- A text that may be absent. -/
def ofText? : Option String → Json
  | some text => str text
  | none => null

end Json

end SchemaWeaver
