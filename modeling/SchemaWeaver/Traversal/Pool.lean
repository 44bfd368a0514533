import SchemaWeaver.Traversal.Engine

/-!
# Visiting declarations side by side

A declaration is a task: the outcomes of its sites, each with the steps that it still has to take.
At any time the first unfinished tasks, as many as there are workers, are being worked on, and a
choice says which of them takes its next step. Outcomes are told in the order of the declarations,
whatever the choices were.
-/

namespace SchemaWeaver

/-- An outcome and the steps that it still has to take. -/
structure Job where
  outcome : Outcome
  steps : List Step
  deriving DecidableEq, Repr

/-- The jobs of one declaration, to be done one after another. -/
abbrev Task := List Job

namespace Task

/-- The number of steps that a task still has to take. -/
def pending (task : Task) : Nat := task.foldr (fun job count => job.steps.length + count) 0

/-- The outcomes of a task. -/
def outcomes (task : Task) : List Outcome := task.map Job.outcome

end Task

namespace Service

variable {σ : Type}

/-- The task of a declaration, with all of its steps before it. -/
def task (s : Service σ) (sites : List Site) : Task :=
  sites.map fun site => ⟨s.begin site.head, site.steps⟩

/-- Takes the next step of a task. -/
def advance (s : Service σ) : Task → Engine σ Task
  | [] => pure []
  | ⟨o, []⟩ :: others => do
    let others ← s.advance others
    return ⟨o, []⟩ :: others
  | ⟨o, step :: steps⟩ :: others => do
    let o ← s.perform o step
    return ⟨o, steps⟩ :: others

/-- The positions of the tasks being worked on: the first unfinished ones, one for each worker. -/
def active (s : Service σ) (tasks : List Task) : List Nat :=
  let unfinished := tasks.zipIdx.filter fun (task, _) => task.pending > 0
  (unfinished.map Prod.snd).take s.workers.toNat

/-- Lets the chosen one among the tasks being worked on take a step. -/
def advanceChosen (s : Service σ) (tasks : List Task) : Engine σ (List Task) := do
  let pick ← Engine.nextPick
  let active := s.active tasks
  match active[pick % active.length]? with
  | none => pure tasks
  | some position =>
    match tasks[position]? with
    | none => pure tasks
    | some task => do
      let task ← s.advance task
      return tasks.set position task

/-- Takes the given number of steps. -/
def advanceAll (s : Service σ) : (steps : Nat) → List Task → Engine σ (List Task)
  | 0, tasks => pure tasks
  | steps + 1, tasks => do
    let tasks ← s.advanceChosen tasks
    s.advanceAll steps tasks

/-- Visits declarations side by side, until no step is left. -/
def visitTogether (s : Service σ) (declarations : List (List Site)) :
    Engine σ (List Outcome) := do
  let tasks := declarations.map s.task
  let steps := tasks.foldr (fun task count => task.pending + count) 0
  let tasks ← s.advanceAll steps tasks
  return tasks.flatMap Task.outcomes

/-- Visits declarations one after another. -/
def visitInOrder (s : Service σ) (declarations : List (List Site)) : Engine σ (List Outcome) :=
  declarations.flatten.mapM s.visitSite

/-- Visits a module, and then its declarations, side by side if there are several and it is
allowed. -/
def visitBlock (s : Service σ) (block : Block) : Engine σ (List Outcome) := do
  let head ← s.visitSite block.head
  let rest ←
    if s.parallel && block.declarations.length > 1 then s.visitTogether block.declarations
    else s.visitInOrder block.declarations
  return head :: rest

/-- Visits modules one after another. -/
def visitBlocks (s : Service σ) (blocks : List Block) : Engine σ (List Outcome) := do
  let outcomes ← blocks.mapM s.visitBlock
  return outcomes.flatten

end Service

end SchemaWeaver
