import SchemaWeaver.Distinct

/-!
# Shapes of contributions

A shape says which lists of code fragments a contribution has. Shapes form a tree: a shape is the
path of layers that leads to it from the root, and a shape extends another when the other's path
leads on to its own. A layer adds lists, and names for writing to lists.
-/

namespace SchemaWeaver

/-- What one shape adds to the shape that it extends directly. -/
structure Layer where
  name : String
  lists : List String
  writers : List (String × String)
  deriving DecidableEq, Repr

/-- The lists that a contribution has, told by the layers from the root on. -/
structure Shape where
  layers : List Layer
  deriving DecidableEq, Repr

namespace Shape

/-- The shape that all others extend; it has no lists. -/
def root : Shape := ⟨[]⟩

/-- The name of a shape is that of its last layer. -/
def name (shape : Shape) : String :=
  match shape.layers.getLast? with
  | some layer => layer.name
  | none => "ContributionBase"

/-- The lists of a shape, those of the shapes it extends first. -/
def lists (shape : Shape) : List String := distinct (shape.layers.flatMap Layer.lists)

theorem nodup_lists (shape : Shape) : shape.lists.Nodup := nodup_distinct _

/-- The list that a writer appends to; the most specific layer decides. -/
def listOfWriter? (shape : Shape) (writer : String) : Option String :=
  shape.layers.reverse.findSome? fun layer => layer.writers.lookup writer

/-- The shape that extends another by one layer. -/
def extend (base : Shape) (layer : Layer) : Shape := ⟨base.layers ++ [layer]⟩

/-- A shape extends itself and every shape on the way to it. -/
def Extends (shape base : Shape) : Prop := base.layers <+: shape.layers

instance (shape base : Shape) : Decidable (shape.Extends base) :=
  inferInstanceAs (Decidable (base.layers <+: shape.layers))

theorem Extends.refl (shape : Shape) : shape.Extends shape := List.prefix_refl _

theorem Extends.trans {a b c : Shape} (hab : a.Extends b) (hbc : b.Extends c) : a.Extends c :=
  List.IsPrefix.trans hbc hab

theorem Extends.antisymm {a b : Shape} (hab : a.Extends b) (hba : b.Extends a) : a = b := by
  cases a
  cases b
  exact congrArg Shape.mk (hba.eq_of_length (Nat.le_antisymm hba.length_le hab.length_le))

/-- The more basic of two shapes, when one extends the other. -/
def common? (a b : Shape) : Option Shape :=
  if b.Extends a then some a else if a.Extends b then some b else none

end Shape

end SchemaWeaver
