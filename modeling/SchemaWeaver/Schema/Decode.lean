import SchemaWeaver.Json.Printer
import SchemaWeaver.Schema.Basic
import SchemaWeaver.Validation.Scalar

/-!
# Schemas from JSON values

A JSON value is checked against the shape of a schema, or of one node. Members are looked up by
name, so their order and any foreign members do not matter; the issues come in the order in which
a node declares its members, and inside lists element by element.
-/

namespace SchemaWeaver

open SchemaWeaver.Check

namespace Directive

/-- The name of a target; it must not be empty. -/
def checkTarget (value : Json) : Checked { target : String // target ≠ "" } :=
  (text value).andThen fun target =>
    if h : target = "" then .refuse .emptyText else .valid ⟨target, h⟩

/-- A payload: a text, or a map of texts. A value that is neither is refused as both. -/
def checkPayload : Json → Checked DirectivePayload
  | .str value => .valid (.text value)
  | value =>
    match (textMap value).under (.key "dict[str,str]") with
    | .valid entries => .valid (.options entries)
    | .invalid first rest => .invalid ⟨[.key "str"], .notText⟩ (first :: rest)

/-- A directive. -/
def check : Json → Checked Directive :=
  model "Annotation" fun members =>
    (fun target payload => ⟨target.val, payload, target.property⟩) <$>
      required "target" checkTarget members <*>
      optional "payload" (.text "") checkPayload members

end Directive

/-- The kind that a node may repeat, which must be its own. -/
def checkKind (kind : NodeKind) (members : Members) : Checked Unit :=
  optional "kind" () (choice [(kind.name, ())]) members

/-- The part that all nodes share. -/
def Header.check (members : Members) : Checked Header :=
  Header.mk <$> required "name" text members <*> optional "docs" none text? members <*>
    optional "annotations" [] (listOf Directive.check) members

/-- A field of a record. -/
def RecordField.check : Json → Checked RecordField :=
  model "RecordField" fun members =>
    RecordField.mk <$> (Header.check members <* checkKind .field members) <*>
      required "type_ref" text members

/-- A case of a variant or an enum. -/
def Case.check : Json → Checked Case :=
  model "Case" fun members =>
    Case.mk <$> (Header.check members <* checkKind .variantCase members) <*>
      optional "type_ref" none text? members

/-- A parameter of a function. -/
def Parameter.check : Json → Checked Parameter :=
  model "Param" fun members =>
    Parameter.mk <$> required "name" text members <*> required "type_ref" text members

/-- A function. -/
def Function.check : Json → Checked Function :=
  model "Function" fun members =>
    Function.mk <$> (Header.check members <* checkKind .function members) <*>
      optional "params" [] (listOf Parameter.check) members <*>
      optional "result" none text? members

namespace TypeDefinition

/-- The kinds of type definitions, in the order in which messages list them. -/
inductive Tag where
  | record
  | variant
  | enum
  | flags
  | resource
  deriving DecidableEq, Repr

namespace Tag

/-- All tags. -/
def all : List Tag := [record, variant, enum, flags, resource]

/-- The kind of node that a tag tells. -/
def kind : Tag → NodeKind
  | record => .record
  | variant => .variant
  | enum => .enum
  | flags => .flags
  | resource => .resource

/-- The name of a tag in documents. -/
def name (tag : Tag) : String := tag.kind.name

/-- The tag with a given name. -/
def ofName? (s : String) : Option Tag := all.find? fun tag => tag.name == s

/-- The model name of a tag. -/
def modelName : Tag → String
  | record => "RecordDef"
  | variant => "VariantDef"
  | enum => "EnumDef"
  | flags => "FlagsDef"
  | resource => "ResourceDef"

end Tag

/-- The members of a type definition with a given tag. -/
def checkBody (members : Members) : Tag → Checked TypeBody
  | .record => (optional "fields" [] (listOf RecordField.check) members).map .record
  | .variant => (optional "cases" [] (listOf Case.check) members).map .variant
  | .enum => (optional "cases" [] (listOf Case.check) members).map .enum
  | .flags => (optional "flags" [] (listOf text) members).map .flags
  | .resource => (optional "methods" [] (listOf Function.check) members).map .resource

/-- A type definition with a given tag, from the members of its object. -/
def checkMembers (tag : Tag) (members : Members) : Checked TypeDefinition :=
  TypeDefinition.mk <$> Header.check members <*>
    (required "type_id" natural members <* checkKind tag.kind members) <*>
    checkBody members tag

/-- A type definition that is known to have a given tag. -/
def checkAs (tag : Tag) : Json → Checked TypeDefinition :=
  model tag.modelName (checkMembers tag)

/-- A type definition that tells its tag. -/
def check : Json → Checked TypeDefinition
  | .obj members =>
    match members.lookup "kind" with
    | none => .refuse (.missingTag "kind")
    | some shown =>
      let tag? := match shown with
        | .str name => Tag.ofName? name
        | _ => none
      match tag? with
      | some tag => (checkMembers tag members).under (.key tag.name)
      | none => .refuse (.unknownTag shown.display "kind" (Tag.all.map Tag.name))
  | _ => .refuse .notTaggedObject

end TypeDefinition

/-- An interface. -/
def Interface.check : Json → Checked Interface :=
  model "Interface" fun members =>
    Interface.mk <$> (Header.check members <* checkKind .interface members) <*>
      optional "package" none text? members <*>
      optional "types" [] (listOf TypeDefinition.check) members <*>
      optional "functions" [] (listOf Function.check) members

/-- A world. -/
def World.check : Json → Checked World :=
  model "World" fun members =>
    World.mk <$> (Header.check members <* checkKind .world members) <*>
      optional "package" none text? members <*>
      optional "imports" [] (listOf Interface.check) members <*>
      optional "exports" [] (listOf Interface.check) members <*>
      optional "types" [] (listOf TypeDefinition.check) members <*>
      optional "functions" [] (listOf Function.check) members

/-- A schema. -/
def Schema.check : Json → Checked Schema :=
  model "Schema" fun members =>
    Schema.mk <$> optional "version" "1.0" text members <*> required "package" text members <*>
      optional "interfaces" [] (listOf Interface.check) members <*>
      optional "worlds" [] (listOf World.check) members

/-- A node of a given kind. -/
def Node.check (kind : NodeKind) (value : Json) : Checked Node :=
  match kind with
  | .record => (TypeDefinition.checkAs .record value).map .type
  | .variant => (TypeDefinition.checkAs .variant value).map .type
  | .enum => (TypeDefinition.checkAs .enum value).map .type
  | .flags => (TypeDefinition.checkAs .flags value).map .type
  | .resource => (TypeDefinition.checkAs .resource value).map .type
  | .field => (RecordField.check value).map .field
  | .variantCase => (Case.check value).map .case
  | .function => (Function.check value).map .function
  | .interface => (Interface.check value).map .interface
  | .world => (World.check value).map .world

end SchemaWeaver
