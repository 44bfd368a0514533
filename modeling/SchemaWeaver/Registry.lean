import SchemaWeaver.Log
import SchemaWeaver.Visitor.Builtin

/-!
# The visitor registry

A registry holds at most one visitor for every annotation target, all of one backend. It is filled
before a run and frozen when the run starts. A second visitor for a target is refused or takes the
first one's place, as the policy says.
-/

namespace SchemaWeaver

/-- What happens to a second visitor for a target. -/
inductive DuplicatePolicy where
  | refuse
  | replace
  deriving DecidableEq, Repr

namespace DuplicatePolicy

/-- The name of a policy in settings. -/
def name : DuplicatePolicy → String
  | refuse => "error"
  | replace => "replace"

/-- The policy with a given name. -/
def ofName? (s : String) : Option DuplicatePolicy :=
  [refuse, replace].find? fun policy => policy.name == s

end DuplicatePolicy

/-- Why a run cannot be set up. -/
inductive SetupError where
  | registryFrozen (target : String)
  | familyMismatch (target expected actual : String)
  | duplicateTarget (target : String)
  | unknownBackend (name : String)
  deriving DecidableEq, Repr

/-- The wording of a setup error. -/
def SetupError.message : SetupError → String
  | registryFrozen target =>
    "Cannot register visitor for target '" ++ target ++ "': registry is frozen"
  | familyMismatch target expected actual =>
    "Visitor for target '" ++ target ++ "' uses the '" ++ actual ++
      "' contribution family, registry expects '" ++ expected ++ "'"
  | duplicateTarget target =>
    "A visitor is already registered for annotation target '" ++ target ++ "'"
  | unknownBackend name => "Unknown backend '" ++ name ++ "'"

/-- The visitors of a run by their targets. -/
structure Registry (σ : Type) where
  family : Backend
  policy : DuplicatePolicy
  visitors : OrderedMap (Visitor σ)
  frozen : Bool

namespace Registry

variable {σ : Type}

/-- A registry without visitors. -/
def empty (family : Backend) (policy : DuplicatePolicy) : Registry σ := ⟨family, policy, ∅, false⟩

/-- The targets in the order in which they were first registered. -/
def targets (r : Registry σ) : List String := r.visitors.keys

/-- The visitor of a target. -/
def find? (r : Registry σ) (target : String) : Option (Visitor σ) := r.visitors.find? target

/-- Whether a target has a visitor. -/
def contains (r : Registry σ) (target : String) : Bool := r.visitors.contains target

theorem contains_eq_isSome (r : Registry σ) (target : String) :
    r.contains target = (r.find? target).isSome := by
  rw [Bool.eq_iff_iff]
  exact OrderedMap.contains_iff.trans OrderedMap.find?_isSome_iff.symm

/-- The record of a visitor that takes another's place. -/
def replacementRecord (target : String) (previous next : Visitor σ) : LogRecord :=
  ⟨.warning, "Replacing visitor " ++ previous.display ++ " for annotation target '" ++ target ++
    "' with " ++ next.display⟩

/-- Registers a visitor under a target, and tells the records of doing so. -/
def register (r : Registry σ) (target : String) (v : Visitor σ) :
    Except SetupError (Registry σ × List LogRecord) :=
  if r.frozen then .error (.registryFrozen target)
  else if v.family ≠ r.family then .error (.familyMismatch target r.family.name v.family.name)
  else
    let updated := { r with visitors := r.visitors.insert target v }
    match r.find? target, r.policy with
    | none, _ => .ok (updated, [])
    | some _, .refuse => .error (.duplicateTarget target)
    | some previous, .replace => .ok (updated, [replacementRecord target previous v])

/-- Registers a visitor under its own target. -/
def add (r : Registry σ) (v : Visitor σ) : Except SetupError (Registry σ × List LogRecord) :=
  r.register v.target v

/-- Makes the registry read-only. -/
def freeze (r : Registry σ) : Registry σ := { r with frozen := true }

/-- The record of a target that no visitor answers for. -/
def missRecord (target : String) : LogRecord :=
  ⟨.warning, "No visitor registered for annotation target '" ++ target ++ "'"⟩

/-- Looks up the visitor of a target; a miss is recorded. -/
def dispatch (r : Registry σ) (target : String) : Option (Visitor σ) × List LogRecord :=
  match r.find? target with
  | some v => (some v, [])
  | none => (none, [missRecord target])

/-- Adds visitors one after another, until one is refused. The registry and the records of those
added before are told in either case. -/
def addAll (r : Registry σ) : List (Visitor σ) → Registry σ × List LogRecord × Option SetupError
  | [] => (r, [], none)
  | v :: others =>
    match r.add v with
    | .error e => (r, [], some e)
    | .ok (updated, records) =>
      let (final, more, e?) := updated.addAll others
      (final, records ++ more, e?)

/-- The family of a registry that is built from visitors: the given one, else that of the first
visitor, else the Rust one. -/
def chosenFamily (family? : Option Backend) (visitors : List (Visitor σ)) : Backend :=
  match family?, visitors with
  | some family, _ => family
  | none, v :: _ => v.family
  | none, [] => .rust

/-- Builds a registry that holds each visitor under its own target. -/
def build (visitors : List (Visitor σ)) (family? : Option Backend) (policy : DuplicatePolicy) :
    Except SetupError (Registry σ × List LogRecord) :=
  match (empty (chosenFamily family? visitors) policy).addAll visitors with
  | (r, records, none) => .ok (r, records)
  | (_, _, some e) => .error e

end Registry

namespace Backend

/-- The backend that a name refers to. -/
def named (name : String) : Except SetupError Backend :=
  match find? name with
  | some backend => .ok backend
  | none => .error (.unknownBackend name)

/-- The visitors shipped for the backend that a name refers to. -/
def defaultVisitors {σ : Type} (name : String) : Except SetupError (List (Visitor σ)) :=
  (named name).map fun backend =>
    if backend = python then Visitor.pythonDefaults else Visitor.rustDefaults

end Backend

end SchemaWeaver
