import SchemaWeaver.Json.Basic
import SchemaWeaver.Traversal.Pool

/-!
# Reports

A traversal reports the outcomes of all sites of a schema, in the order of the walk. A report can
be written as a JSON value, with or without the outcomes that have nothing to say.
-/

namespace SchemaWeaver

/-- The outcomes of a traversal. -/
structure Report where
  package : String
  outcomes : List Outcome
  deriving DecidableEq, Repr

namespace Report

/-- All diagnostics, in the order of the outcomes. -/
def diagnostics (r : Report) : List Diagnostic := r.outcomes.flatMap Outcome.diagnostics

/-- The number of nodes that have an outcome. -/
def nodesVisited (r : Report) : Nat := r.outcomes.length

/-- The number of hook calls. -/
def hooksInvoked (r : Report) : Nat :=
  r.outcomes.foldr (fun o count => o.invocations.length + count) 0

/-- The position of the first outcome of a node with the given kind and name. -/
def position? (r : Report) (kind : NodeKind) (name : String) : Option Nat :=
  r.outcomes.findIdx? fun o => o.kind = kind && o.name = name

/-- The first outcome of a node with the given kind and name. -/
def find? (r : Report) (kind : NodeKind) (name : String) : Option Outcome :=
  r.outcomes.find? fun o => o.kind = kind && o.name = name

end Report

namespace Service

variable {σ : Type}

/-- The record of a walk that is sequential although several workers were asked for. -/
def sequentialRecord : LogRecord :=
  ⟨.info, "Visiting sequentially: not every registered visitor is reentrant"⟩

/-- Visits every node of a schema. -/
def traverse (s : Service σ) (schema : Schema) : Engine σ Report := do
  if s.workers > 1 && !s.parallel then Engine.log [sequentialRecord]
  let outcomes ← s.visitBlocks schema.blocks
  return ⟨schema.package, outcomes⟩

end Service

/-- A contribution as a JSON value. -/
def Contribution.encode (c : Contribution) : Json :=
  .obj (("action", .str c.action.name) ::
    c.lists.entries.map fun (list, fragments) => (list, .ofTexts fragments))

/-- A contribution that may be missing, as a JSON value. -/
def Contribution.encode? : Option Contribution → Json
  | some c => c.encode
  | none => .null

/-- A diagnostic as a JSON value. -/
def Diagnostic.encode (d : Diagnostic) : Json :=
  .obj [("kind", .str d.kind.name), ("target", .str d.target), ("node", .str d.node),
    ("message", .str d.message)]

/-- An outcome as a JSON value. -/
def Outcome.encode (o : Outcome) : Json :=
  let members (m : OrderedMap Contribution) : Json := .obj (m.mapValues Contribution.encode).entries
  .obj [("node_kind", .str o.kind.name), ("node_name", .str o.name),
    ("backend", .str o.family.name), ("action", .str o.action.name),
    ("type", Contribution.encode? o.ofType), ("fields", members o.ofFields),
    ("cases", members o.ofCases), ("function", Contribution.encode? o.ofFunction),
    ("module", Contribution.encode? o.ofModule),
    ("diagnostics", .arr (o.diagnostics.map Diagnostic.encode))]

/-- The outcomes that a report tells: all of them, or those with a fragment, a request to skip or a
diagnostic. -/
def Report.told (r : Report) (includeEmpty : Bool) : List Outcome :=
  r.outcomes.filter fun o => includeEmpty || !o.isEmpty || !o.diagnostics.isEmpty

/-- A report as a JSON value. -/
def Report.encode (r : Report) (includeEmpty : Bool) : Json :=
  .obj [("package", .str r.package), ("nodes_visited", .int r.nodesVisited),
    ("hooks_invoked", .int r.hooksInvoked),
    ("results", .arr ((r.told includeEmpty).map Outcome.encode))]

end SchemaWeaver
