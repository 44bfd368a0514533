import SchemaWeaver.Contribution.Shape
import SchemaWeaver.OrderedMap

/-!
# Contributions

A contribution accumulates fragments of generated code in the lists of its shape, and says whether
the code generated by default is kept beside them. Merging two contributions concatenates their
lists, under the more basic of the two shapes. All contributions are merged by this one rule: a
shape has lists and names for writing to them, but no rule of its own.
-/

namespace SchemaWeaver

/-- What happens to the code generated by default: it is kept, or the contribution takes its
place. -/
inductive Action where
  | keep
  | skip
  deriving DecidableEq, Repr

namespace Action

/-- The name of an action in reports. -/
def name : Action → String
  | keep => "continue"
  | skip => "skip"

/-- One request to skip is enough. -/
def max : Action → Action → Action
  | keep, other => other
  | skip, _ => skip

end Action

/-- Fragments of generated code in the lists of a shape. -/
structure Contribution where
  shape : Shape
  action : Action
  lists : OrderedMap (List String)
  keys_lists : lists.keys = shape.lists
  deriving DecidableEq, Repr

/-- Two contributions of which neither shape extends the other. -/
structure MergeMismatch where
  incoming : String
  existing : String
  deriving DecidableEq, Repr

/-- The wording of a mismatch. -/
def MergeMismatch.message (m : MergeMismatch) : String :=
  "Cannot merge " ++ m.incoming ++ " into " ++ m.existing

namespace Contribution

/-- The contribution whose lists are given by a function of their names. -/
def tabulate (shape : Shape) (action : Action) (fragments : String → List String) :
    Contribution where
  shape := shape
  action := action
  lists := ⟨shape.lists.map fun name => (name, fragments name), by
    simpa [Function.comp_def] using shape.nodup_lists⟩
  keys_lists := by simp [OrderedMap.keys, Function.comp_def]

/-- The contribution of a shape without fragments. -/
def empty (shape : Shape) : Contribution := tabulate shape .keep fun _ => []

/-- The fragments in a list; a list that the shape lacks has none. -/
def fragments (c : Contribution) (list : String) : List String := (c.lists.find? list).getD []

/-- Whether the contribution has no fragments. -/
def isEmpty (c : Contribution) : Bool := c.lists.values.all List.isEmpty

/-- Asks for the code generated by default to be dropped. -/
def skipDefault (c : Contribution) : Contribution := { c with action := .skip }

/-- Appends a fragment to a list of the shape. -/
def append? (c : Contribution) (list fragment : String) : Option Contribution :=
  if h : list ∈ c.shape.lists then
    some { c with
      lists := c.lists.insert list (c.fragments list ++ [fragment])
      keys_lists := by
        rw [OrderedMap.keys_insert, c.keys_lists, if_pos h] }
  else none

/-- Appends a fragment by the name of a writer of the shape. -/
def write? (c : Contribution) (writer fragment : String) : Option Contribution :=
  (c.shape.listOfWriter? writer).bind fun list => c.append? list fragment

/-- Concatenates two contributions list by list. The result has the more basic of their shapes. -/
def merge (c other : Contribution) : Except MergeMismatch Contribution :=
  match c.shape.common? other.shape with
  | some shape =>
    .ok (tabulate shape (c.action.max other.action) fun list =>
      c.fragments list ++ other.fragments list)
  | none => .error ⟨other.shape.name, c.shape.name⟩

/-- The fragments of a contribution, each with the name of its list. -/
def rows (c : Contribution) : List (String × String) :=
  c.lists.entries.flatMap fun (list, fragments) => fragments.map fun fragment => (list, fragment)

end Contribution

end SchemaWeaver
