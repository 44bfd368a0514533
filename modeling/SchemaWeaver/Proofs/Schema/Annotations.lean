import SchemaWeaver.Proofs.Directives.Targets
import SchemaWeaver.Proofs.Traversal.Nodes

/-!
# Changing the annotations of a schema

The annotations of all nodes of a schema are changed by one function, at every depth. This leaves
the listing of the nodes, their kinds, names and positions as they are. Two changes are of interest:
taking away the directives of one target, and taking away all of them.
-/

namespace SchemaWeaver

/-- A change of annotation lists. -/
abbrev Reannotation := List Directive → List Directive

def Header.reannotate (f : Reannotation) (h : Header) : Header :=
  { h with annotations := f h.annotations }

def RecordField.reannotate (f : Reannotation) (x : RecordField) : RecordField :=
  { x with toHeader := x.toHeader.reannotate f }

def Case.reannotate (f : Reannotation) (x : Case) : Case :=
  { x with toHeader := x.toHeader.reannotate f }

def Function.reannotate (f : Reannotation) (x : Function) : Function :=
  { x with toHeader := x.toHeader.reannotate f }

def TypeBody.reannotate (f : Reannotation) : TypeBody → TypeBody
  | record fields => record (fields.map (RecordField.reannotate f))
  | variant cases => variant (cases.map (Case.reannotate f))
  | enum cases => enum (cases.map (Case.reannotate f))
  | flags names => flags names
  | resource methods => resource (methods.map (Function.reannotate f))

def TypeDefinition.reannotate (f : Reannotation) (t : TypeDefinition) : TypeDefinition :=
  { t with toHeader := t.toHeader.reannotate f, body := t.body.reannotate f }

def Interface.reannotate (f : Reannotation) (i : Interface) : Interface :=
  { i with
    toHeader := i.toHeader.reannotate f
    types := i.types.map (TypeDefinition.reannotate f)
    functions := i.functions.map (Function.reannotate f) }

def World.reannotate (f : Reannotation) (w : World) : World :=
  { w with
    toHeader := w.toHeader.reannotate f
    imports := w.imports.map (Interface.reannotate f)
    exports := w.exports.map (Interface.reannotate f)
    types := w.types.map (TypeDefinition.reannotate f)
    functions := w.functions.map (Function.reannotate f) }

/-- The schema with the annotations of all its nodes changed. -/
def Schema.reannotate (f : Reannotation) (schema : Schema) : Schema :=
  { schema with
    interfaces := schema.interfaces.map (Interface.reannotate f)
    worlds := schema.worlds.map (World.reannotate f) }

/-- The node with its own annotations and those of all nodes inside it changed. -/
def Node.reannotate (f : Reannotation) : Node → Node
  | type definition => type (definition.reannotate f)
  | field definition => field (definition.reannotate f)
  | case definition => case (definition.reannotate f)
  | function definition => function (definition.reannotate f)
  | interface definition => interface (definition.reannotate f)
  | world definition => world (definition.reannotate f)

/-- The schema without the directives of a target. -/
def Schema.without (target : String) : Schema → Schema :=
  Schema.reannotate (Directives.without target)

/-- The node without the directives of a target, inside it or on it. -/
def Node.without (target : String) : Node → Node := Node.reannotate (Directives.without target)

/-- The node without any directives, inside it or on it. -/
def Node.bare : Node → Node := Node.reannotate fun _ => []

section Composition

variable (f g : Reannotation)

@[simp] theorem RecordField.reannotate_reannotate (x : RecordField) :
    (x.reannotate f).reannotate g = x.reannotate (g ∘ f) := rfl

@[simp] theorem Case.reannotate_reannotate (x : Case) :
    (x.reannotate f).reannotate g = x.reannotate (g ∘ f) := rfl

@[simp] theorem Function.reannotate_reannotate (x : Function) :
    (x.reannotate f).reannotate g = x.reannotate (g ∘ f) := rfl

@[simp] theorem TypeBody.reannotate_reannotate (body : TypeBody) :
    (body.reannotate f).reannotate g = body.reannotate (g ∘ f) := by
  cases body <;> simp [TypeBody.reannotate]

@[simp] theorem TypeDefinition.reannotate_reannotate (t : TypeDefinition) :
    (t.reannotate f).reannotate g = t.reannotate (g ∘ f) := by
  simp [TypeDefinition.reannotate, Header.reannotate]

@[simp] theorem Interface.reannotate_reannotate (i : Interface) :
    (i.reannotate f).reannotate g = i.reannotate (g ∘ f) := by
  simp [Interface.reannotate, Header.reannotate]

@[simp] theorem World.reannotate_reannotate (w : World) :
    (w.reannotate f).reannotate g = w.reannotate (g ∘ f) := by
  simp [World.reannotate, Header.reannotate]

/-- Of two changes the second one sees what the first one leaves. -/
@[simp] theorem Node.reannotate_reannotate (node : Node) :
    (node.reannotate f).reannotate g = node.reannotate (g ∘ f) := by
  cases node <;> simp [Node.reannotate]

end Composition

/-- No directives are left inside a bare node, whatever was there before. -/
@[simp] theorem Node.bare_reannotate (f : Reannotation) (node : Node) :
    (node.reannotate f).bare = node.bare :=
  node.reannotate_reannotate f fun _ => []

section Listing

variable (f : Reannotation)

@[simp] theorem Node.header_reannotate (node : Node) :
    (node.reannotate f).header = node.header.reannotate f := by
  cases node <;> rfl

@[simp] theorem Node.kind_reannotate (node : Node) : (node.reannotate f).kind = node.kind := by
  cases node with
  | type definition => cases h : definition.body <;> simp [Node.reannotate, Node.kind,
      TypeDefinition.reannotate, TypeBody.reannotate, TypeBody.kind, h]
  | field | case | function | interface | world => rfl

@[simp] theorem Node.name_reannotate (node : Node) : (node.reannotate f).name = node.name := by
  simp [Node.name, Header.reannotate]

@[simp] theorem Node.annotations_reannotate (node : Node) :
    (node.reannotate f).annotations = f node.annotations := by
  simp [Node.annotations, Header.reannotate]

theorem Node.members_reannotate (node : Node) :
    (node.reannotate f).members = node.members.map (Node.reannotate f) := by
  cases node with
  | type definition =>
    cases h : definition.body <;> simp [Node.reannotate, Node.members, TypeDefinition.reannotate,
      TypeBody.reannotate, h]
  | field | case | function | interface | world => rfl

theorem TypeDefinition.nodes_reannotate (t : TypeDefinition) :
    (t.reannotate f).nodes = t.nodes.map (Node.reannotate f) := by
  cases h : t.body <;> simp [TypeDefinition.nodes, TypeDefinition.reannotate, TypeBody.reannotate,
    Node.reannotate, h]

theorem declaredNodes_reannotate (types : List TypeDefinition) (functions : List Function) :
    declaredNodes (types.map (TypeDefinition.reannotate f))
        (functions.map (Function.reannotate f)) =
      (declaredNodes types functions).map (Node.reannotate f) := by
  simp [declaredNodes, List.flatMap_map, List.map_flatMap, TypeDefinition.nodes_reannotate,
    Node.reannotate]

theorem Interface.nodes_reannotate (i : Interface) :
    (i.reannotate f).nodes = i.nodes.map (Node.reannotate f) := by
  rw [Interface.nodes, Interface.nodes, List.map_cons, ← declaredNodes_reannotate]
  rfl

theorem World.nodes_reannotate (w : World) :
    (w.reannotate f).nodes = w.nodes.map (Node.reannotate f) := by
  simp only [World.nodes, List.map_append, List.map_cons, ← declaredNodes_reannotate,
    List.map_flatMap, ← Interface.nodes_reannotate]
  simp only [World.reannotate, List.flatMap_map, Node.reannotate]

/-- Changing annotations changes every node where it stands in the listing. -/
theorem Schema.nodes_reannotate (schema : Schema) :
    (schema.reannotate f).nodes = schema.nodes.map (Node.reannotate f) := by
  simp only [Schema.nodes, List.map_append, List.map_flatMap, ← Interface.nodes_reannotate,
    ← World.nodes_reannotate]
  simp only [Schema.reannotate, List.flatMap_map]

theorem Node.stops_reannotate (node : Node) :
    (node.reannotate f).stops =
      node.stops.map fun stop => ⟨stop.node.reannotate f, stop.index⟩ := by
  simp [Node.stops, Node.memberStops, Node.members_reannotate, List.zipIdx_map, Function.comp_def]

end Listing

end SchemaWeaver
