import SchemaWeaver.Traversal.Walk

/-!
# The nodes of a schema in the order of a report

A listing of the nodes that have an outcome of their own, by recursion on the schema and without
blocks, declarations or sites. An interface comes before its types, a resource directly before its
methods, functions after all types; a world comes before its own declarations, and the interfaces
that it imports and exports come after them. Interfaces of the schema come before its worlds.

`Schema.sites_eq` says that a walk goes to the sites of exactly these nodes in this order.
-/

namespace SchemaWeaver

/-- A type definition, and behind a resource its methods. -/
def TypeDefinition.nodes (t : TypeDefinition) : List Node :=
  .type t ::
    match t.body with
    | .resource methods => methods.map .function
    | _ => []

/-- The declarations of a module. -/
def declaredNodes (types : List TypeDefinition) (functions : List Function) : List Node :=
  types.flatMap TypeDefinition.nodes ++ functions.map .function

/-- An interface and its declarations. -/
def Interface.nodes (i : Interface) : List Node :=
  .interface i :: declaredNodes i.types i.functions

/-- A world and its declarations, the interfaces that it imports, and those that it exports. -/
def World.nodes (w : World) : List Node :=
  .world w :: declaredNodes w.types w.functions ++
    w.imports.flatMap Interface.nodes ++ w.exports.flatMap Interface.nodes

/-- The nodes of a schema that have an outcome of their own. -/
def Schema.nodes (schema : Schema) : List Node :=
  schema.interfaces.flatMap Interface.nodes ++ schema.worlds.flatMap World.nodes

namespace Node

/-- The fields of a record, or the cases of a variant or an enum. -/
def members : Node → List Node
  | type definition =>
    match definition.body with
    | .record fields => fields.map .field
    | .variant cases => cases.map .case
    | .enum cases => cases.map .case
    | .flags _ => []
    | .resource _ => []
  | _ => []

/-- The members of a node with their positions in the order of their declaration. -/
def memberStops (node : Node) : List Stop :=
  node.members.zipIdx.map fun (member, position) => ⟨member, some (Int.ofNat position)⟩

/-- The nodes whose annotations count for the outcome of a node: the node itself, and its members
with their positions. -/
def stops (node : Node) : List Stop := ⟨node, none⟩ :: node.memberStops

/-- The site of a node. -/
def site (node : Node) : Site := ⟨node, node.memberStops⟩

end Node

/-- The stops at members come with a position. -/
theorem Node.of_mem_memberStops {node : Node} {stop : Stop} (h : stop ∈ node.memberStops) :
    stop.node ∈ node.members ∧ stop.index.isSome = true := by
  obtain ⟨⟨member, position⟩, listed, rfl⟩ := List.mem_map.mp h
  exact ⟨(List.mem_zipIdx' listed).2 ▸ List.getElem_mem _, rfl⟩

/-- The slot that the members of a type definition fill, if it can have members. -/
def TypeBody.memberSlot? : TypeBody → Option Slot
  | record _ => some .field
  | variant _ | enum _ => some .case
  | flags _ | resource _ => none

theorem TypeBody.isMember_of_memberSlot? {body : TypeBody} {slot : Slot}
    (h : body.memberSlot? = some slot) : slot.isMember = true := by
  cases body <;> cases h <;> rfl

theorem TypeDefinition.memberSlot?_eq {t : TypeDefinition} {node : Node}
    (h : node ∈ (Node.type t).members) : t.body.memberSlot? = some (Slot.ofKind node.kind) := by
  obtain ⟨header, typeId, body⟩ := t
  cases body with
  | record fields =>
    obtain ⟨field, -, rfl⟩ := List.mem_map.mp h
    rfl
  | variant cases =>
    obtain ⟨case, -, rfl⟩ := List.mem_map.mp h
    rfl
  | enum cases =>
    obtain ⟨case, -, rfl⟩ := List.mem_map.mp h
    rfl
  | flags names => cases h
  | resource methods => cases h

theorem Node.isMember_of_mem_members {node member : Node} (h : member ∈ node.members) :
    (Slot.ofKind member.kind).isMember = true := by
  cases node with
  | type t => exact TypeBody.isMember_of_memberSlot? (t.memberSlot?_eq h)
  | field f => cases h
  | case c => cases h
  | function f => cases h
  | interface i => cases h
  | world w => cases h

theorem numbered_eq {α : Type} (toNode : α → Node) (members : List α) :
    numbered toNode members =
      (members.map toNode).zipIdx.map fun (member, position) =>
        ⟨member, some (Int.ofNat position)⟩ := by
  simp [numbered, List.zipIdx_map, Function.comp_def]

theorem TypeDefinition.site_eq (t : TypeDefinition) : t.site = (Node.type t).site := by
  obtain ⟨header, typeId, body⟩ := t
  cases body <;>
    simp [TypeDefinition.site, TypeBody.stops, numbered_eq, Node.site, Node.memberStops,
      Node.members]

theorem Function.site_eq (f : Function) : f.site = (Node.function f).site := rfl

theorem TypeDefinition.sites_eq (t : TypeDefinition) : t.sites = t.nodes.map Node.site := by
  rw [TypeDefinition.sites, t.site_eq]
  unfold TypeDefinition.nodes
  cases t.body with
  | resource methods => simp [TypeBody.methods, Function.site_eq]
  | record fields => rfl
  | variant cases => rfl
  | enum cases => rfl
  | flags names => rfl

theorem flatten_declarationSites (types : List TypeDefinition) (functions : List Function) :
    (declarationSites types functions).flatten =
      (declaredNodes types functions).map Node.site := by
  have typeSites : (types.map TypeDefinition.sites).flatten =
      (types.flatMap TypeDefinition.nodes).map Node.site := by
    rw [← List.flatMap_def, List.map_flatMap, funext TypeDefinition.sites_eq]
  have functionSites : (functions.map fun f => [f.site]).flatten =
      (functions.map Node.function).map Node.site := by
    rw [← List.flatMap_def, ← List.map_eq_flatMap, List.map_map]
    rfl
  rw [declarationSites, List.flatten_append, typeSites, functionSites, declaredNodes,
    List.map_append]

theorem Interface.sites_block (i : Interface) : i.block.sites = i.nodes.map Node.site := by
  rw [Block.sites, Interface.nodes, List.map_cons, Interface.block, flatten_declarationSites]
  rfl

theorem World.sites_blocks (w : World) :
    w.blocks.flatMap Block.sites = w.nodes.map Node.site := by
  have own : Block.sites ⟨.ofNode (.world w), declarationSites w.types w.functions⟩ =
      (Node.world w :: declaredNodes w.types w.functions).map Node.site := by
    rw [Block.sites, flatten_declarationSites]
    rfl
  rw [World.blocks, List.flatMap_cons, own, World.nodes]
  simp only [List.map_append, List.flatMap_append, List.flatMap_map, List.map_flatMap,
    Interface.sites_block, List.append_assoc]

/-- A walk goes to the nodes of the listing and to no others, each as often as it is listed. -/
theorem Schema.sites_eq (schema : Schema) : schema.sites = schema.nodes.map Node.site := by
  simp only [Schema.sites, Schema.blocks, Schema.nodes, List.flatMap_append, List.map_append,
    List.flatMap_map, List.map_flatMap, List.flatMap_assoc, Interface.sites_block,
    World.sites_blocks]

end SchemaWeaver
