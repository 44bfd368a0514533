import SchemaWeaver.Visitor.Builtin

/-!
# Visitors that read a level

Both visitors for tracing read a level from the texts of a payload and log the entry of a function
at that level if they know it. They differ in the levels, in what they write and in the backend. A
`Tracer` holds these differences, and the two visitors are the visitors of two tracers, so that what
holds of a tracer is said once.
-/

namespace SchemaWeaver.Visitor

open SchemaWeaver.Text

variable {σ : Type}

/-- That in which the visitors for tracing differ. No level has a comma, so that two texts which are
joined into one never name a level. -/
structure Tracer where
  className : String
  family : Backend
  levels : List String
  /-- What logs at a level the entry of the function with a name. -/
  entry : String → String → Contribution
  /-- What an interface needs for the logs in it. -/
  setup : Contribution
  comma_notMem : ∀ level ∈ levels, ',' ∉ level.toList

namespace Tracer

/-- The level that a payload tells. -/
def level (p : Payload) : String := orElse (trim p.text) "debug"

/-- What a tracer answers. -/
def answer (t : Tracer) (p : Payload) : Node → Option Contribution
  | .function f => if level p ∈ t.levels then some (t.entry (level p) f.name) else none
  | .interface _ => some t.setup
  | _ => none

def visitor (t : Tracer) : Visitor σ :=
  ofFunction t.className "trace" t.family [.function, .interface] t.answer

/-- The tracer of the Rust backend. -/
def rust : Tracer where
  className := "TracingVisitor"
  family := .rust
  levels := tracingLevels
  entry level name := .ofLists .rustFunction [
    ("attributes", ["#[tracing::instrument]"]),
    ("body_prefix", ["tracing::" ++ level ++ "!(\"Entering function: " ++ name ++ "\");"])]
  setup := .ofLists .rustModule [("use_statements", ["use tracing;"])]
  comma_notMem := by decide

/-- The tracer of the Python backend. -/
def python : Tracer where
  className := "PyTraceVisitor"
  family := .python
  levels := loggerLevels
  entry level name := .ofLists .pythonFunction
    [("body_prologue", ["logger." ++ level ++ "(\"Entering function: " ++ name ++ "\")"])]
  setup := .ofLists .pythonModule [("imports", ["import logging"]),
    ("additional_code", ["logger = logging.getLogger(__name__)"])]
  comma_notMem := by decide

end Tracer

theorem tracing_eq : (tracing : Visitor σ) = Tracer.rust.visitor := by
  refine congrArg (ofFunction _ _ _ _) (funext fun p => funext fun node => ?_)
  cases node <;> rfl

theorem loggerTrace_eq : (loggerTrace : Visitor σ) = Tracer.python.visitor := by
  refine congrArg (ofFunction _ _ _ _) (funext fun p => funext fun node => ?_)
  cases node <;> rfl

end SchemaWeaver.Visitor
