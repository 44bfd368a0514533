import SchemaWeaver.OrderedMap

/-!
# Schemas

A schema is a package of interfaces and worlds. These hold type definitions and functions; type
definitions hold fields, cases, flags or methods. Every one of these nodes has a name, perhaps a
doc comment, and annotations: directives that address a target and carry a payload for it.
-/

namespace SchemaWeaver

/-- What a directive carries: a text, or texts under keys. -/
inductive DirectivePayload where
  | text (value : String)
  | options (entries : OrderedMap String)
  deriving DecidableEq, Repr

/-- One annotation of a node. The target it addresses has a name. -/
structure Directive where
  target : String
  payload : DirectivePayload
  target_ne_empty : target ≠ ""
  deriving DecidableEq, Repr

/-- What every node has. -/
structure Header where
  name : String
  docs : Option String
  annotations : List Directive
  deriving DecidableEq, Repr

/-- A field of a record. -/
structure RecordField extends Header where
  typeRef : String
  deriving DecidableEq, Repr

/-- A case of a variant or an enum, perhaps with a payload type. -/
structure Case extends Header where
  typeRef : Option String
  deriving DecidableEq, Repr

/-- A parameter of a function. -/
structure Parameter where
  name : String
  typeRef : String
  deriving DecidableEq, Repr

/-- A function, or a method of a resource. -/
structure Function extends Header where
  parameters : List Parameter
  result : Option String
  deriving DecidableEq, Repr

/-- The members of a type definition, which tell its kind. -/
inductive TypeBody where
  | record (fields : List RecordField)
  | variant (cases : List Case)
  | enum (cases : List Case)
  | flags (names : List String)
  | resource (methods : List Function)
  deriving DecidableEq, Repr

/-- A named type with a stable identifier. -/
structure TypeDefinition extends Header where
  typeId : Nat
  body : TypeBody
  deriving DecidableEq, Repr

/-- A module of types and functions. -/
structure Interface extends Header where
  package : Option String
  types : List TypeDefinition
  functions : List Function
  deriving DecidableEq, Repr

/-- A world: the interfaces it imports and exports, and declarations of its own. -/
structure World extends Header where
  package : Option String
  imports : List Interface
  exports : List Interface
  types : List TypeDefinition
  functions : List Function
  deriving DecidableEq, Repr

/-- A package of interfaces and worlds. -/
structure Schema where
  version : String
  package : String
  interfaces : List Interface
  worlds : List World
  deriving DecidableEq, Repr

/-- The kinds of nodes. -/
inductive NodeKind where
  | record
  | variant
  | enum
  | flags
  | resource
  | field
  | variantCase
  | function
  | interface
  | world
  deriving DecidableEq, Repr

namespace NodeKind

/-- All kinds. -/
def all : List NodeKind :=
  [record, variant, enum, flags, resource, field, variantCase, function, interface, world]

/-- The name of a kind in documents and messages. -/
def name : NodeKind → String
  | record => "record"
  | variant => "variant"
  | enum => "enum"
  | flags => "flags"
  | resource => "resource"
  | field => "field"
  | variantCase => "variant-case"
  | function => "function"
  | interface => "interface"
  | world => "world"

/-- The kind with a given name. -/
def ofName? (s : String) : Option NodeKind := all.find? fun kind => kind.name == s

/-- The kinds of type definitions. -/
def isTypeDefinition : NodeKind → Bool
  | record | variant | enum | flags | resource => true
  | _ => false

/-- The kinds of modules. -/
def isModule : NodeKind → Bool
  | interface | world => true
  | _ => false

/-- The name of the hook that visits nodes of a kind. -/
def hookName : NodeKind → String
  | record => "visit_record"
  | variant => "visit_variant"
  | enum => "visit_enum"
  | flags => "visit_flags"
  | resource => "visit_resource"
  | field => "visit_field"
  | variantCase => "visit_variant_case"
  | function => "visit_function"
  | interface => "visit_interface"
  | world => "visit_world"

theorem ofName?_name (kind : NodeKind) : ofName? kind.name = some kind := by
  cases kind <;> decide

end NodeKind

/-- The kind of a type definition with the given members. -/
def TypeBody.kind : TypeBody → NodeKind
  | record _ => .record
  | variant _ => .variant
  | enum _ => .enum
  | flags _ => .flags
  | resource _ => .resource

/-- A node of a schema. -/
inductive Node where
  | type (definition : TypeDefinition)
  | field (definition : RecordField)
  | case (definition : Case)
  | function (definition : Function)
  | interface (definition : Interface)
  | world (definition : World)
  deriving DecidableEq, Repr

namespace Node

/-- The kind of a node. -/
def kind : Node → NodeKind
  | type definition => definition.body.kind
  | field _ => .field
  | case _ => .variantCase
  | function _ => .function
  | interface _ => .interface
  | world _ => .world

/-- The name, docs and annotations of a node. -/
def header : Node → Header
  | type definition => definition.toHeader
  | field definition => definition.toHeader
  | case definition => definition.toHeader
  | function definition => definition.toHeader
  | interface definition => definition.toHeader
  | world definition => definition.toHeader

/-- The name of a node. -/
def name (node : Node) : String := node.header.name

/-- The directives on a node. -/
def annotations (node : Node) : List Directive := node.header.annotations

end Node

end SchemaWeaver
