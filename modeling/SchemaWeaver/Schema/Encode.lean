import SchemaWeaver.Json.Printer
import SchemaWeaver.Schema.Basic

/-!
# Schemas as JSON values

Every node is written as an object with all of its members, in the order in which the node declares
them and with defaults included.
-/

namespace SchemaWeaver

open Json

/-- A list of things as an array. -/
def encodeList {α : Type} (encode : α → Json) (items : List α) : Json :=
  arr (items.map encode)

/-- The payload of a directive as a value. -/
def DirectivePayload.encode : DirectivePayload → Json
  | text value => str value
  | options entries => obj (entries.entries.map fun (key, value) => (key, str value))

/-- A directive as an object. -/
def Directive.encode (d : Directive) : Json :=
  obj [("target", str d.target), ("payload", d.payload.encode)]

/-- The members that all nodes share. -/
def Header.encode (h : Header) : List (String × Json) :=
  [("name", str h.name), ("docs", ofText? h.docs),
    ("annotations", encodeList Directive.encode h.annotations)]

/-- The member that tells the kind of a node. -/
def NodeKind.encode (kind : NodeKind) : String × Json := ("kind", str kind.name)

/-- A field as an object. -/
def RecordField.encode (f : RecordField) : Json :=
  obj (f.toHeader.encode ++ [NodeKind.field.encode, ("type_ref", str f.typeRef)])

/-- A case as an object. -/
def Case.encode (c : Case) : Json :=
  obj (c.toHeader.encode ++ [NodeKind.variantCase.encode, ("type_ref", ofText? c.typeRef)])

/-- A parameter as an object. -/
def Parameter.encode (p : Parameter) : Json :=
  obj [("name", str p.name), ("type_ref", str p.typeRef)]

/-- A function as an object. -/
def Function.encode (f : Function) : Json :=
  obj (f.toHeader.encode ++ [NodeKind.function.encode,
    ("params", encodeList Parameter.encode f.parameters), ("result", ofText? f.result)])

/-- The member that holds the members of a type definition. -/
def TypeBody.encode : TypeBody → String × Json
  | record fields => ("fields", encodeList RecordField.encode fields)
  | variant cases => ("cases", encodeList Case.encode cases)
  | enum cases => ("cases", encodeList Case.encode cases)
  | flags names => ("flags", ofTexts names)
  | resource methods => ("methods", encodeList Function.encode methods)

/-- A type definition as an object. -/
def TypeDefinition.encode (t : TypeDefinition) : Json :=
  obj (t.toHeader.encode ++ [("type_id", int t.typeId), t.body.kind.encode, t.body.encode])

/-- An interface as an object. -/
def Interface.encode (i : Interface) : Json :=
  obj (i.toHeader.encode ++ [NodeKind.interface.encode, ("package", ofText? i.package),
    ("types", encodeList TypeDefinition.encode i.types),
    ("functions", encodeList Function.encode i.functions)])

/-- A world as an object. -/
def World.encode (w : World) : Json :=
  obj (w.toHeader.encode ++ [NodeKind.world.encode, ("package", ofText? w.package),
    ("imports", encodeList Interface.encode w.imports),
    ("exports", encodeList Interface.encode w.exports),
    ("types", encodeList TypeDefinition.encode w.types),
    ("functions", encodeList Function.encode w.functions)])

/-- A schema as an object. -/
def Schema.encode (s : Schema) : Json :=
  obj [("version", str s.version), ("package", str s.package),
    ("interfaces", encodeList Interface.encode s.interfaces),
    ("worlds", encodeList World.encode s.worlds)]

/-- A schema as an indented document. -/
def Schema.dump (s : Schema) : String := s.encode.pretty

end SchemaWeaver
