import SchemaWeaver.Config.Basic
import SchemaWeaver.Outcome
import SchemaWeaver.Traversal.Walk

/-!
# Calling the hooks of a node

A step takes one target of one node to its visitor and settles the answer: a contribution of the
right shape is merged into the outcome, and everything else that is worth telling becomes a
diagnostic. No answer stops the steps that follow. What makes a step fail is misuse alone: an
outcome that was handed on already, or a member without its position.
-/

namespace SchemaWeaver

/-- What a run carries along: the state of the visitors, the records made so far, and the choices
that decide which worker goes on next. When the choices run out the first worker goes on. -/
structure Session (σ : Type) where
  state : σ
  log : List LogRecord
  picks : List Nat

/-- Why a node is not processed. -/
inductive Misuse where
  | missingIndex (kind : NodeKind) (name : String)
  | refused (reason : Refusal)
  deriving DecidableEq, Repr

/-- The wording of a misuse. -/
def Misuse.message : Misuse → String
  | missingIndex kind name =>
    kind.name ++ " '" ++ name ++ "' needs its index within the parent"
  | refused reason => reason.message

/-- Computations of a run. What was done before a failure stays done. -/
abbrev Engine (σ : Type) := ExceptT Misuse (StateM (Session σ))

namespace Engine

variable {σ α : Type}

/-- Adds records to the log. -/
def log (records : List LogRecord) : Engine σ Unit :=
  modify fun session => { session with log := session.log ++ records }

/-- Performs an operation on an outcome. -/
def attempt (operation : Except Refusal α) : Engine σ α :=
  match operation with
  | .ok value => pure value
  | .error reason => throw (.refused reason)

/-- Calls the hook of a visitor. -/
def call (v : Visitor σ) (arguments : HookCall) : Engine σ Answer :=
  modifyGet fun session =>
    let (answer, state) := (v.hook arguments).run session.state
    (answer, { session with state := state })

/-- Takes the next choice. -/
def nextPick : Engine σ Nat :=
  modifyGet fun session =>
    match session.picks with
    | [] => (0, session)
    | pick :: others => (pick, { session with picks := others })

end Engine

/-- The means of a run: a registry that is read-only, settings, and the number of workers. -/
structure Service (σ : Type) where
  registry : Registry σ
  config : Config
  workers : Int

namespace Service

variable {σ : Type}

/-- Sets up a run. The number of workers is that of the settings unless another one is given; zero
counts as none given. -/
def start (registry : Registry σ) (config : Config) (workers? : Option Int) : Service σ where
  registry := registry.freeze
  config := config
  workers :=
    match workers? with
    | some n => if n = 0 then config.maxWorkers else n
    | none => config.maxWorkers

/-- Whether declarations are visited side by side: with more than one worker, when every visitor
allows it. -/
def parallel (s : Service σ) : Bool :=
  s.workers > 1 && s.registry.visitors.values.all Visitor.reentrant

/-- The outcome of a visit to a node that has just begun. -/
def begin (s : Service σ) (node : Node) : Outcome :=
  Outcome.start s.registry.family node.kind node.name

/-- What is told about a key that several option maps of a target set. -/
def collisionMessage (step : Step) (key : String) : String :=
  "Annotation key '" ++ key ++ "' for target '" ++ step.target ++ "' on " ++
    step.stop.node.kind.name ++ " '" ++ step.stop.node.name ++
    "' is set more than once; the last value wins"

/-- What is told about a value of the wrong type. -/
def unexpectedMessage (s : Service σ) (stop : Stop) (typeName : String) : String :=
  stop.node.kind.hookName ++ " returned " ++ typeName ++ ", expected " ++
    (s.registry.family.get stop.slot).name

/-- What is told about a contribution that cannot be merged. -/
def unmergedMessage (stop : Stop) (reason : Refusal) : String :=
  stop.node.kind.hookName ++ " returned a contribution that cannot be merged: " ++ reason.message

/-- The record of a contribution that cannot be merged. -/
def unmergedRecord (step : Step) (reason : Refusal) : LogRecord :=
  ⟨.warning, "Cannot merge contribution from '" ++ step.target ++ "' on '" ++
    step.stop.node.name ++ "': " ++ reason.message⟩

/-- What is told about a hook that fails. -/
def failureMessage (stop : Stop) (message : String) : String :=
  stop.node.kind.hookName ++ " raised: " ++ message

/-- The record of a hook that fails. -/
def failureRecord (step : Step) (message : String) : LogRecord :=
  ⟨.warning, "Visitor for '" ++ step.target ++ "' failed on " ++ step.stop.node.kind.name ++
    " '" ++ step.stop.node.name ++ "': " ++ message⟩

/-- Tells about one key that is set more than once. -/
def noteCollision (step : Step) (o : Outcome) (key : String) : Engine σ Outcome := do
  let message := collisionMessage step key
  Engine.log [⟨.warning, message⟩]
  Engine.attempt (o.record .keyCollision step.target message)

/-- Tells about the keys that are set more than once, if that is wanted. -/
def noteCollisions (s : Service σ) (step : Step) (o : Outcome) : Engine σ Outcome :=
  if s.config.warnOnKeyCollision then
    (Directives.collisions step.stop.node.annotations step.target).foldlM (noteCollision step) o
  else pure o

/-- Settles a contribution: it is merged when its shape fits the slot and what the slot holds. -/
def settleContribution (s : Service σ) (step : Step) (o : Outcome) (c : Contribution) :
    Engine σ Outcome :=
  let stop := step.stop
  if c.shape.Extends (s.registry.family.get stop.slot) then
    match o.merge stop.slot c stop.member? with
    | .ok merged => pure merged
    | .error (.consumed kind name) => throw (.refused (.consumed kind name))
    | .error reason => do
      Engine.log [unmergedRecord step reason]
      Engine.attempt (o.record .unexpectedContribution step.target (unmergedMessage stop reason))
  else
    Engine.attempt (o.record .unexpectedContribution step.target
      (s.unexpectedMessage stop c.shape.name))

/-- Settles the answer of a hook. -/
def settle (s : Service σ) (step : Step) (o : Outcome) : Answer → Engine σ Outcome
  | .nothing => pure o
  | .contribution c => s.settleContribution step o c
  | .foreign typeName =>
    Engine.attempt (o.record .unexpectedContribution step.target
      (s.unexpectedMessage step.stop typeName))
  | .failure message => do
    Engine.log [failureRecord step message]
    Engine.attempt (o.record .hookFailed step.target (failureMessage step.stop message))

/-- The arguments of the hook call that a step makes. -/
def hookCall (step : Step) : HookCall where
  payload := Directives.payloadFor step.stop.node.annotations step.target
  node := step.stop.node
  index := step.stop.index

/-- The invocation that a step records. -/
def invocation (step : Step) : Invocation :=
  ⟨step.target, step.stop.node.kind.hookName, step.stop.node.name, step.stop.index⟩

/-- Takes one target of a node to its visitor and settles the answer. -/
def perform (s : Service σ) (o : Outcome) (step : Step) : Engine σ Outcome := do
  let o ← s.noteCollisions step o
  let (found, records) := s.registry.dispatch step.target
  Engine.log records
  match found with
  | none =>
    Engine.attempt
      (o.record .unresolvedTarget step.target (Registry.missRecord step.target).message)
  | some v => do
    let o ← Engine.attempt (o.recordInvocation (invocation step))
    let answer ← Engine.call v (hookCall step)
    s.settle step o answer

/-- Takes every target of a node to its visitor, in the order in which they are first addressed. -/
def processNode (s : Service σ) (stop : Stop) (o : Outcome) : Engine σ Outcome :=
  if stop.lacksIndex then throw (.missingIndex stop.node.kind stop.node.name)
  else stop.steps.foldlM s.perform o

/-- Visits a site: the node itself and then its members, all into one outcome. -/
def visitSite (s : Service σ) (site : Site) : Engine σ Outcome :=
  site.steps.foldlM s.perform (s.begin site.head)

end Service

end SchemaWeaver
