import SchemaWeaver.Contribution.Family

/-!
# The outcome of a visit

A visit to a node collects the contributions to it and to its members, the diagnostics met and the
hooks called. Contributions to one slot, and for members under one name, are merged in the order in
which they come. An outcome is handed on once; from then on it can be neither changed nor handed on
again. An operation that is refused changes nothing.
-/

namespace SchemaWeaver

/-- The sorts of problems that do not stop a run. -/
inductive DiagnosticKind where
  | unresolvedTarget
  | hookFailed
  | unexpectedContribution
  | keyCollision
  deriving DecidableEq, Repr

namespace DiagnosticKind

/-- All sorts. -/
def all : List DiagnosticKind :=
  [unresolvedTarget, hookFailed, unexpectedContribution, keyCollision]

/-- The name of a sort in reports. -/
def name : DiagnosticKind → String
  | unresolvedTarget => "unresolved_target"
  | hookFailed => "hook_failed"
  | unexpectedContribution => "unexpected_contribution"
  | keyCollision => "key_collision"

/-- The sort with a given name. -/
def ofName? (s : String) : Option DiagnosticKind := all.find? fun kind => kind.name == s

end DiagnosticKind

/-- A problem met at a node. -/
structure Diagnostic where
  kind : DiagnosticKind
  target : String
  node : String
  message : String
  deriving DecidableEq, Repr

/-- A call of a hook. -/
structure Invocation where
  target : String
  hook : String
  node : String
  index : Option Int
  deriving DecidableEq, Repr

/-- Why an outcome refuses an operation. -/
inductive Refusal where
  | consumed (kind : NodeKind) (name : String)
  | missingMember (slot : Slot)
  | mismatch (reason : MergeMismatch)
  | noAttributes (family : String) (slot : Slot)
  deriving DecidableEq, Repr

/-- The wording of a refusal. -/
def Refusal.message : Refusal → String
  | consumed kind name =>
    "Annotation result for " ++ kind.name ++ " '" ++ name ++ "' was already consumed"
  | missingMember slot => "A member name is required to merge a " ++ slot.name ++ " contribution"
  | mismatch reason => reason.message
  | noAttributes family slot =>
    family ++ " " ++ slot.name ++ " contributions do not support attributes"

/-- What a visit to a node has brought. -/
structure Outcome where
  family : Backend
  kind : NodeKind
  name : String
  ofType : Option Contribution
  ofFields : OrderedMap Contribution
  ofCases : OrderedMap Contribution
  ofFunction : Option Contribution
  ofModule : Option Contribution
  action : Action
  diagnostics : List Diagnostic
  invocations : List Invocation
  consumed : Bool
  deriving DecidableEq, Repr

namespace Outcome

/-- The outcome of a visit that has just begun. -/
def start (family : Backend) (kind : NodeKind) (name : String) : Outcome where
  family := family
  kind := kind
  name := name
  ofType := none
  ofFields := ∅
  ofCases := ∅
  ofFunction := none
  ofModule := none
  action := .keep
  diagnostics := []
  invocations := []
  consumed := false

/-- Goes on only with an outcome that was not handed on. -/
def whenOpen {α : Type} (o : Outcome) (next : Except Refusal α) : Except Refusal α :=
  if o.consumed then .error (.consumed o.kind o.name) else next

/-- Merges a contribution into what a place holds, if anything. -/
def combine (existing : Option Contribution) (c : Contribution) : Except Refusal Contribution :=
  match existing with
  | none => .ok c
  | some held =>
    match held.merge c with
    | .ok merged => .ok merged
    | .error reason => .error (.mismatch reason)

/-- The contribution at a place: a slot, and for members a name. -/
def at? (o : Outcome) (slot : Slot) (member : String) : Option Contribution :=
  match slot with
  | .type => o.ofType
  | .field => o.ofFields.find? member
  | .case => o.ofCases.find? member
  | .function => o.ofFunction
  | .module => o.ofModule

/-- Writes the contribution at a place. -/
def put (o : Outcome) (slot : Slot) (member : String) (c : Contribution) : Outcome :=
  match slot with
  | .type => { o with ofType := some c }
  | .field => { o with ofFields := o.ofFields.insert member c }
  | .case => { o with ofCases := o.ofCases.insert member c }
  | .function => { o with ofFunction := some c }
  | .module => { o with ofModule := some c }

/-- Merges a contribution into a slot; the slots of members need a name. A request to skip carries
over to the outcome. -/
def merge (o : Outcome) (slot : Slot) (c : Contribution) (member? : Option String) :
    Except Refusal Outcome :=
  o.whenOpen <|
    if slot.isMember && member?.isNone then .error (.missingMember slot)
    else
      let member := member?.getD ""
      (combine (o.at? slot member) c).map fun merged =>
        { o.put slot member merged with action := o.action.max c.action }

/-- Merges a contribution that consists of one attribute into the slot of a member. -/
def addAttribute (o : Outcome) (slot : Slot) (member fragment : String) :
    Except Refusal Outcome :=
  match (Contribution.empty (o.family.get slot)).write? "add_attribute" fragment with
  | none => .error (.noAttributes o.family.name slot)
  | some c => o.merge slot c (some member)

/-- The diagnostic that a record makes of a problem. -/
def diagnostic (o : Outcome) (kind : DiagnosticKind) (target message : String) : Diagnostic :=
  ⟨kind, target, o.name, message⟩

/-- Records a problem. -/
def record (o : Outcome) (kind : DiagnosticKind) (target message : String) :
    Except Refusal Outcome :=
  o.whenOpen <|
    .ok { o with diagnostics := o.diagnostics ++ [o.diagnostic kind target message] }

/-- Records a call of a hook. -/
def recordInvocation (o : Outcome) (invocation : Invocation) : Except Refusal Outcome :=
  o.whenOpen <| .ok { o with invocations := o.invocations ++ [invocation] }

/-- Hands the outcome on. -/
def consume (o : Outcome) : Except Refusal Outcome :=
  o.whenOpen <| .ok { o with consumed := true }

/-- All contributions of the outcome. -/
def contributions (o : Outcome) : List Contribution :=
  o.ofType.toList ++ o.ofFunction.toList ++ o.ofModule.toList ++ o.ofFields.values ++
    o.ofCases.values

/-- Whether no contribution has a fragment and none asked to skip. -/
def isEmpty (o : Outcome) : Bool :=
  o.action = .keep && o.contributions.all Contribution.isEmpty

end Outcome

end SchemaWeaver
