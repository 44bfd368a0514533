import SchemaWeaver.Visitor.Attribute
import SchemaWeaver.Visitor.Basic

/-!
# The built-in visitors

Seven visitors ship for the Rust backend and two for the Python backend. None of them keeps state,
and a payload that they cannot interpret is answered with nothing.
-/

namespace SchemaWeaver.Visitor

open SchemaWeaver.Text

variable {σ : Type}

/-- The comma-separated names in the texts of a payload. -/
def segmentsOf (payload : Payload) : List String := payload.values.flatMap segments

/-- The first text unless it is empty, else the second. -/
def orElse (first second : String) : String := if first = "" then second else first

/-- `derive` adds derived traits to type definitions other than resources. -/
def derive : Visitor σ :=
  ofFunction "DeriveVisitor" "derive" .rust [.record, .variant, .enum, .flags] fun payload node =>
    match node.kind, segmentsOf payload with
    | _, [] => none
    | .record, derives | .variant, derives | .enum, derives | .flags, derives =>
      some (.ofLists .rustType [("derives", derives)])
    | _, _ => none

/-- `deprecated` marks functions, fields and cases. -/
def deprecated : Visitor σ :=
  ofFunction "DeprecatedVisitor" "deprecated" .rust [.function, .field, .variantCase]
    fun payload node =>
    let mark (shape : Shape) : Option Contribution :=
      (Attribute.deprecation? payload).map fun text => .ofLists shape [("attributes", [text])]
    match node with
    | .function _ => mark .rustFunction
    | .field _ => mark .rustField
    | .case _ => mark .rustCase
    | _ => none

/-- The levels at which function entry can be traced. -/
def tracingLevels : List String := ["trace", "debug", "info", "warn", "error"]

/-- `trace` instruments functions and logs their entry; on an interface it imports the macros. -/
def tracing : Visitor σ :=
  ofFunction "TracingVisitor" "trace" .rust [.function, .interface] fun payload node =>
    match node with
    | .function f =>
      let level := orElse (trim payload.text) "debug"
      if level ∈ tracingLevels then
        some (.ofLists .rustFunction [
          ("attributes", ["#[tracing::instrument]"]),
          ("body_prefix", ["tracing::" ++ level ++ "!(\"Entering function: " ++ f.name ++ "\");"])])
      else none
    | .interface _ => some (.ofLists .rustModule [("use_statements", ["use tracing;"])])
    | _ => none

/-- The variable that holds the result of a generated function. -/
def resultBinding : String := "__wit_result"

/-- `log` prints the entry of a function with its parameters, and its exit with its result. -/
def callLog : Visitor σ :=
  ofFunction "LoggingVisitor" "log" .rust [.function] fun _ node =>
    match node with
    | .function f =>
      let entry := "println!(\"[ENTRY] " ++ f.name ++ "\");"
      let parameter (p : Parameter) :=
        "println!(\"  param '" ++ p.name ++ "' = \x7b:?\x7d\", " ++ p.name ++ ");"
      let exit :=
        if f.result.isSome then
          "println!(\"[EXIT] " ++ f.name ++ " => \x7b:?\x7d\", " ++ resultBinding ++ ");"
        else "println!(\"[EXIT] " ++ f.name ++ "\");"
      some (.ofLists .rustFunction [
        ("body_prefix", entry :: f.parameters.map parameter), ("body_suffix", [exit])])
    | _ => none

/-- The version that a payload tells: its option, or else its text. -/
def version? (payload : Payload) : Option String :=
  let version := orElse ((payload.get? "version").getD "") (trim payload.text)
  if version = "" then none else some version

/-- `since` notes the version since which a function or a module is available. -/
def since : Visitor σ :=
  ofFunction "SinceVisitor" "since" .rust [.function, .interface, .world] fun payload node =>
    let comment (subject version : String) : Contribution :=
      .ofLists .rustModule
        [("additional_code", ["// " ++ subject ++ " available since version: " ++ version])]
    match version? payload, node with
    | some version, .function _ =>
      some (.ofLists .rustFunction [("attributes",
        ["#[doc = \"Since version: " ++ Literal.escape version ++ "\"]"])])
    | some version, .interface _ => some (comment "Interface" version)
    | some version, .world _ => some (comment "World" version)
    | _, _ => none

/-- `validate` asserts conditions at the start of a function. -/
def validate : Visitor σ :=
  ofFunction "ValidateVisitor" "validate" .rust [.function] fun payload node =>
    match node, payload.trimmedValues with
    | .function _, first :: others =>
      some (.ofLists .rustFunction [("body_prefix", (first :: others).map fun condition =>
        "assert!(" ++ condition ++ ", \"Validation failed\");")])
    | _, _ => none

/-- The traits that serialization derives. -/
def serdeDerives : List String := ["serde::Serialize", "serde::Deserialize"]

/-- The options of serialization that a type definition understands. -/
def serdeContainerKeys : TypeBody → Option (List String)
  | .record _ | .enum _ => some ["rename_all"]
  | .variant _ => some ["rename_all", "tag", "content"]
  | _ => none

/-- `serde` derives serialization for types and configures it for types, fields and cases. -/
def serde : Visitor σ :=
  ofFunction "SerdeVisitor" "serde" .rust [.record, .variant, .enum, .field, .variantCase]
    fun payload node =>
    let member (shape : Shape) : Option Contribution :=
      match Attribute.serdeMemberArguments? payload with
      | none | some [] => none
      | some arguments => some (.ofLists shape [("attributes", [Attribute.call "serde" arguments])])
    match node with
    | .type definition => do
      let keys ← serdeContainerKeys definition.body
      let arguments ← Attribute.serdeArguments? keys payload
      let attributes := if arguments.isEmpty then [] else [Attribute.call "serde" arguments]
      return .ofLists .rustType [("derives", serdeDerives), ("attributes", attributes)]
    | .field _ => member .rustField
    | .case _ => member .rustCase
    | _ => none

/-- The flags of a data class. -/
def dataclassFlags : List String := ["frozen", "slots", "kw_only", "order"]

/-- The options of a data class field. -/
def dataclassFieldKeys : List String := ["default", "repr", "compare"]

/-- `dataclass` turns records into data classes and configures their fields. -/
def dataclass : Visitor σ :=
  ofFunction "PyDataclassVisitor" "dataclass" .python [.record, .field, .interface]
    fun payload node =>
    match node with
    | .type definition =>
      match definition.body with
      | .record _ =>
        let flags := segmentsOf payload
        if flags.all fun flag => dataclassFlags.contains flag then
          let decorator :=
            if flags.isEmpty then "@dataclass"
            else "@dataclass(" ++ commaJoined (flags.map fun flag => flag ++ "=True") ++ ")"
          some (.ofLists .pythonType [("decorators", [decorator])])
        else none
      | _ => none
    | .field _ =>
      if payload.options.isEmpty || !payload.optionsWithin dataclassFieldKeys then none
      else
        some (.ofLists .pythonField [("metadata", dataclassFieldKeys.filterMap fun key =>
          (payload.get? key).map fun value => key ++ "=" ++ value)])
    | .interface _ =>
      some (.ofLists .pythonModule [("imports", ["from dataclasses import dataclass"])])
    | _ => none

/-- The levels at which a module logger writes. -/
def loggerLevels : List String := ["debug", "info", "warning", "error"]

/-- `trace` logs function entry through the module logger, which an interface sets up. -/
def loggerTrace : Visitor σ :=
  ofFunction "PyTraceVisitor" "trace" .python [.function, .interface] fun payload node =>
    match node with
    | .function f =>
      let level := orElse (trim payload.text) "debug"
      if level ∈ loggerLevels then
        some (.ofLists .pythonFunction
          [("body_prologue", ["logger." ++ level ++ "(\"Entering function: " ++ f.name ++ "\")"])])
      else none
    | .interface _ =>
      some (.ofLists .pythonModule [("imports", ["import logging"]),
        ("additional_code", ["logger = logging.getLogger(__name__)"])])
    | _ => none

/-- The visitors shipped for the Rust backend. -/
def rustDefaults : List (Visitor σ) :=
  [derive, deprecated, tracing, callLog, since, validate, serde]

/-- The visitors shipped for the Python backend. -/
def pythonDefaults : List (Visitor σ) := [dataclass, loggerTrace]

/-- All built-in visitors. -/
def builtin : List (Visitor σ) := rustDefaults ++ pythonDefaults

end SchemaWeaver.Visitor
