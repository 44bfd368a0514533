import SchemaWeaver.Report
import SchemaWeaver.Text.Markup

/-!
# Tables

What is shown on a console: the fragments of an outcome, the diagnostics of a report and the
visitors of a backend. Titles and cells are console markup; fragments and the messages of
diagnostics are escaped. A table is what the console is given. How the console draws it, wraps lines
and interprets the markup is not modelled.
-/

namespace SchemaWeaver

/-- A titled table of markup cells. -/
structure Table where
  title : String
  columns : List String
  rows : List (List String)
  deriving DecidableEq, Repr

namespace Table

/-- The contributions of an outcome with the name of their slot and, for members, their own. -/
def slotRows (o : Outcome) : List (String × String × Contribution) :=
  let single (slot : String) (c? : Option Contribution) := c?.toList.map fun c => (slot, "", c)
  let members (slot : String) (m : OrderedMap Contribution) :=
    m.entries.map fun (name, c) => (slot, name, c)
  single "type" o.ofType ++ single "function" o.ofFunction ++ single "module" o.ofModule ++
    members "field" o.ofFields ++ members "case" o.ofCases

/-- The fragments of an outcome, a row each. -/
def ofOutcome (o : Outcome) : Table where
  title :=
    let title := o.kind.name ++ " " ++ o.name
    if o.action = .skip then title ++ " [red](replaces default code)[/red]" else title
  columns := ["Slot", "Member", "List", "Fragment"]
  rows := (slotRows o).flatMap fun (slot, member, c) =>
    c.rows.map fun (list, fragment) => [slot, member, list, Text.Markup.escape fragment]

/-- Diagnostics, a row each. -/
def ofDiagnostics (diagnostics : List Diagnostic) : Table where
  title := "Diagnostics"
  columns := ["Kind", "Target", "Node", "Message"]
  rows := diagnostics.map fun d =>
    [d.kind.name, d.target, d.node, Text.Markup.escape d.message]

/-- Visitors, a row each. -/
def ofVisitors {σ : Type} (visitors : List (Visitor σ)) : Table where
  title := "Visitors"
  columns := ["Target", "Visitor", "Backend", "Reentrant"]
  rows := visitors.map fun v =>
    [v.target, v.className, v.family.name,
      if v.reentrant then "[green]yes[/green]" else "[red]no[/red]"]

end Table

end SchemaWeaver
