import SchemaWeaver.Contribution.Family
import SchemaWeaver.Directives

/-!
# The order of a walk

A walk over a schema is a list of sites, one for every node that has an outcome of its own:
interfaces, worlds, type definitions, functions and methods. At a site the walk stops at the node
itself and then at its fields or cases, which have no outcome of their own. Sites come in blocks, a
module and its declarations, because the declarations of one module may be visited side by side.
-/

namespace SchemaWeaver

/-- A node that hooks are called for; a member comes with its position in its parent. -/
structure Stop where
  node : Node
  index : Option Int
  deriving DecidableEq, Repr

/-- A node with an outcome of its own, and the members that share it. -/
structure Site where
  head : Node
  members : List Stop
  deriving DecidableEq, Repr

/-- A module and its declarations. A declaration is visited as a whole; a resource brings its
methods with it. -/
structure Block where
  head : Site
  declarations : List (List Site)
  deriving DecidableEq, Repr

/-- One target addressed at a stop. -/
structure Step where
  stop : Stop
  target : String
  deriving DecidableEq, Repr

namespace Stop

/-- The slot that a stop fills. -/
def slot (stop : Stop) : Slot := Slot.ofKind stop.node.kind

/-- Whether a member lacks its position. -/
def lacksIndex (stop : Stop) : Bool := stop.slot.isMember && stop.index.isNone

/-- The name under which contributions to a member are kept. -/
def member? (stop : Stop) : Option String :=
  if stop.slot.isMember then some stop.node.name else none

/-- The targets addressed at a stop, each once. -/
def steps (stop : Stop) : List Step :=
  (Directives.targets stop.node.annotations).map fun target => ⟨stop, target⟩

end Stop

namespace Site

/-- The site of a node without members of its own. -/
def ofNode (node : Node) : Site := ⟨node, []⟩

/-- The stops of a site, the node itself first. -/
def stops (site : Site) : List Stop := ⟨site.head, none⟩ :: site.members

/-- The steps of a site. -/
def steps (site : Site) : List Step := site.stops.flatMap Stop.steps

end Site

/-- Nodes with their positions. -/
def numbered {α : Type} (toNode : α → Node) (members : List α) : List Stop :=
  members.zipIdx.map fun (member, index) => ⟨toNode member, some (Int.ofNat index)⟩

/-- The fields or cases of a type definition as stops. -/
def TypeBody.stops : TypeBody → List Stop
  | record fields => numbered .field fields
  | variant cases => numbered .case cases
  | enum cases => numbered .case cases
  | _ => []

/-- The methods of a type definition. -/
def TypeBody.methods : TypeBody → List Function
  | resource methods => methods
  | _ => []

/-- The site of a type definition. -/
def TypeDefinition.site (t : TypeDefinition) : Site := ⟨.type t, t.body.stops⟩

/-- The site of a function. -/
def Function.site (f : Function) : Site := .ofNode (.function f)

/-- The sites of a type definition and of its methods. -/
def TypeDefinition.sites (t : TypeDefinition) : List Site :=
  t.site :: t.body.methods.map Function.site

/-- The declarations of a module: its types, then its functions. -/
def declarationSites (types : List TypeDefinition) (functions : List Function) :
    List (List Site) :=
  types.map TypeDefinition.sites ++ functions.map fun f => [f.site]

/-- An interface and its declarations. -/
def Interface.block (i : Interface) : Block :=
  ⟨.ofNode (.interface i), declarationSites i.types i.functions⟩

/-- A world and its own declarations, then the interfaces it imports and those it exports. -/
def World.blocks (w : World) : List Block :=
  ⟨.ofNode (.world w), declarationSites w.types w.functions⟩ ::
    (w.imports ++ w.exports).map Interface.block

/-- The interfaces of a schema, then its worlds. -/
def Schema.blocks (s : Schema) : List Block :=
  s.interfaces.map Interface.block ++ s.worlds.flatMap World.blocks

/-- The sites of a block in the order of a walk. -/
def Block.sites (b : Block) : List Site := b.head :: b.declarations.flatten

/-- The sites of a schema in the order of a walk. -/
def Schema.sites (s : Schema) : List Site := s.blocks.flatMap Block.sites

end SchemaWeaver
