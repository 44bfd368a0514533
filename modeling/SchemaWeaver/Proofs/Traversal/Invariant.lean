import Mathlib.Data.List.Forall2
import SchemaWeaver.Proofs.Traversal.Refinement
import SchemaWeaver.Proofs.Traversal.Schedule
import SchemaWeaver.Report

/-!
# Invariants of a walk

An invariant relates a site to the outcome collected for it so far and to the steps that are still
to come. What holds when a visit begins and is kept by every step holds of every outcome that is
reported, in the order of the sites, and then no step is left. This is so whether declarations are
visited one after another or side by side, and then for all choices of which worker goes on next: a
step works on one job, leaves the others as they are, and is one of finitely many.
-/

namespace SchemaWeaver.Service

variable {σ : Type}

/-- A relation between sites and jobs that holds of new jobs and that steps keep without failing. -/
structure Invariant (s : Service σ) (R : Site → Job → Prop) : Prop where
  start : ∀ site, R site ⟨s.begin site.head, site.steps⟩
  keeps : ∀ site o step steps, R site ⟨o, step :: steps⟩ →
    Engine.Ensures (s.perform o step) fun o' => R site ⟨o', steps⟩

/-- Outcomes that belong to sites one by one: jobs without further steps, in an invariant relation
to their sites. -/
abbrev Reported (R : Site → Job → Prop) : List Site → List Outcome → Prop :=
  List.Forall₂ fun site o => R site ⟨o, []⟩

variable {s : Service σ} {R : Site → Job → Prop}

namespace Invariant

theorem foldlM_ensures (inv : s.Invariant R) {site : Site} {steps : List Step} {o : Outcome}
    (h : R site ⟨o, steps⟩) :
    Engine.Ensures (steps.foldlM s.perform o) fun o' => R site ⟨o', []⟩ := by
  induction steps generalizing o with
  | nil => exact .pure h
  | cons step steps ih =>
    rw [List.foldlM_cons]
    exact (inv.keeps site o step steps h).bind fun _ kept => ih kept

theorem visitSite_ensures (inv : s.Invariant R) (site : Site) :
    Engine.Ensures (s.visitSite site) fun o => R site ⟨o, []⟩ :=
  inv.foldlM_ensures (inv.start site)

theorem visitInOrder_ensures (inv : s.Invariant R) (declarations : List (List Site)) :
    Engine.Ensures (s.visitInOrder declarations) (Reported R declarations.flatten) :=
  Engine.Ensures.mapM inv.visitSite_ensures _

/-- The first unfinished job of a task takes its step; the others wait. -/
theorem advance_ensures (inv : s.Invariant R) {sites : List Site} {task : Task}
    (h : List.Forall₂ R sites task) :
    Engine.Ensures (s.advance task) fun task' =>
      List.Forall₂ R sites task' ∧ task'.pending = task.pending - 1 := by
  induction h with
  | nil => exact .pure ⟨.nil, rfl⟩
  | @cons site job sites task head tail ih =>
    obtain ⟨o, steps⟩ := job
    cases steps with
    | nil =>
      refine ih.bind fun task' kept => .pure ⟨.cons head kept.1, ?_⟩
      simp [Task.pending_cons, kept.2]
    | cons step steps =>
      refine (inv.keeps site o step steps head).bind fun o' kept => .pure ⟨.cons kept tail, ?_⟩
      simp only [Task.pending_cons, List.length_cons]
      omega

end Invariant

/-- One element of a related list may be exchanged for another that is related to the same. -/
private theorem forall₂_set {α β : Type} {P : α → β → Prop} {xs : List α} {ys : List β}
    (h : List.Forall₂ P xs ys) {i : Nat} {y : β} (present : ys[i]? = some y) :
    ∃ x, P x y ∧ ∀ y', P x y' → List.Forall₂ P xs (ys.set i y') := by
  induction h generalizing i with
  | nil => cases present
  | @cons x₀ y₀ xs ys head tail ih =>
    cases i with
    | zero =>
      simp only [List.getElem?_cons_zero, Option.some.injEq] at present
      subst present
      exact ⟨x₀, head, fun y' related => .cons related tail⟩
    | succ i =>
      obtain ⟨x, related, exchange⟩ := ih (by simpa using present)
      exact ⟨x, related, fun y' h' => .cons head (exchange y' h')⟩

namespace Invariant

theorem advanceAt_ensures (inv : s.Invariant R) {declarations : List (List Site)}
    {tasks : List Task} (h : List.Forall₂ (List.Forall₂ R) declarations tasks) (position : Nat) :
    Engine.Ensures (s.advanceAt tasks position) fun tasks' =>
      List.Forall₂ (List.Forall₂ R) declarations tasks' ∧
        pendings tasks' = (pendings tasks).modify position (· - 1) := by
  unfold advanceAt
  split
  · rename_i absent
    refine .pure ⟨h, (List.modify_eq_self ?_).symm⟩
    simpa using absent
  · rename_i task present
    obtain ⟨sites, related, exchange⟩ := forall₂_set h present
    refine (inv.advance_ensures related).bind fun task' kept => .pure ⟨exchange task' kept.1, ?_⟩
    have count : (pendings tasks)[position]? = some task.pending := by simp [present]
    rw [pendings, List.map_set, kept.2, List.modify_eq_set_getElem?, count]
    rfl

theorem advanceChosen_ensures (inv : s.Invariant R) (workers : 0 < s.workers)
    {declarations : List (List Site)} {tasks : List Task}
    (h : List.Forall₂ (List.Forall₂ R) declarations tasks) :
    Engine.Ensures (s.advanceChosen tasks) fun tasks' =>
      List.Forall₂ (List.Forall₂ R) declarations tasks' ∧
        (pendings tasks').sum = (pendings tasks).sum - 1 := by
  rw [advanceChosen_eq]
  refine Engine.Ensures.nextPick.bind fun pick _ => ?_
  rcases s.chosen_cases workers tasks pick with
    ⟨none_chosen, finished⟩ | ⟨position, count, chosen, present, positive⟩
  · rw [none_chosen]
    exact .pure ⟨h, by rw [finished]⟩
  · rw [chosen]
    refine (inv.advanceAt_ensures h position).mono fun tasks' kept => ⟨kept.1, ?_⟩
    rw [kept.2]
    have less := sum_modify_pred present positive
    omega

theorem advanceAll_ensures (inv : s.Invariant R) (workers : 0 < s.workers)
    {declarations : List (List Site)} (steps : Nat) {tasks : List Task}
    (h : List.Forall₂ (List.Forall₂ R) declarations tasks) :
    Engine.Ensures (s.advanceAll steps tasks) fun tasks' =>
      List.Forall₂ (List.Forall₂ R) declarations tasks' ∧
        (pendings tasks').sum = (pendings tasks).sum - steps := by
  induction steps generalizing tasks with
  | zero => exact .pure ⟨h, rfl⟩
  | succ steps ih =>
    refine (inv.advanceChosen_ensures workers h).bind fun next kept => ?_
    refine (ih kept.1).mono fun tasks' rest => ⟨rest.1, ?_⟩
    rw [rest.2, kept.2]
    omega

theorem tasks_begun (inv : s.Invariant R) (declarations : List (List Site)) :
    List.Forall₂ (List.Forall₂ R) declarations (declarations.map s.task) := by
  rw [List.forall₂_map_right_iff, List.forall₂_same]
  intro sites _
  rw [task, List.forall₂_map_right_iff, List.forall₂_same]
  exact fun site _ => inv.start site

end Invariant

/-- Finished tasks have reported the outcomes of their sites. -/
theorem reported_of_finished {declarations : List (List Site)} {tasks : List Task}
    (h : List.Forall₂ (List.Forall₂ R) declarations tasks)
    (finished : ∀ task ∈ tasks, task.pending = 0) :
    Reported R declarations.flatten (tasks.flatMap Task.outcomes) := by
  have jobs : List.Forall₂ R declarations.flatten tasks.flatten := List.rel_flatten h
  have outcomes : tasks.flatMap Task.outcomes = tasks.flatten.map Job.outcome := by
    rw [List.map_flatten]
    rfl
  have ended : ∀ job ∈ tasks.flatten, job.steps = [] := by
    intro job member
    obtain ⟨task, inTasks, inTask⟩ := List.mem_flatten.mp member
    exact Task.steps_of_pending_eq_zero (finished task inTasks) job inTask
  rw [outcomes, Reported, List.forall₂_map_right_iff]
  have both := ((List.forall₂_and_left _ _).mpr ⟨ended, jobs.flip⟩).flip
  refine both.imp ?_
  rintro site ⟨o, steps⟩ ⟨rfl, related⟩
  exact related

namespace Invariant

theorem visitTogether_ensures (inv : s.Invariant R) (workers : 0 < s.workers)
    (declarations : List (List Site)) :
    Engine.Ensures (s.visitTogether declarations) (Reported R declarations.flatten) := by
  have begun := inv.tasks_begun declarations
  refine (inv.advanceAll_ensures workers _ begun).bind fun tasks kept => .pure ?_
  have finished : (pendings tasks).sum = 0 := by
    rw [kept.2, foldr_pending_eq_sum, Nat.sub_self]
  rw [List.sum_eq_zero_iff_forall_eq_nat] at finished
  exact reported_of_finished kept.1 fun task member => finished _ (List.mem_map_of_mem member)

theorem visitBlock_ensures (inv : s.Invariant R) (block : Block) :
    Engine.Ensures (s.visitBlock block) (Reported R block.sites) := by
  refine (inv.visitSite_ensures block.head).bind fun head visited => ?_
  have joined : ∀ rest, Reported R block.declarations.flatten rest →
      Engine.Ensures (pure (head :: rest) : Engine σ _) (Reported R block.sites) :=
    fun _ reported => .pure (.cons visited reported)
  dsimp only
  split
  · rename_i several
    have workers : 0 < s.workers := by
      simp only [parallel, Bool.and_eq_true, decide_eq_true_eq] at several
      omega
    exact (inv.visitTogether_ensures workers _).bind joined
  · exact (inv.visitInOrder_ensures _).bind joined

theorem visitBlocks_ensures (inv : s.Invariant R) (blocks : List Block) :
    Engine.Ensures (s.visitBlocks blocks) (Reported R (blocks.flatMap Block.sites)) := by
  refine (Engine.Ensures.mapM inv.visitBlock_ensures blocks).bind fun outcomes reported =>
    .pure ?_
  rw [List.flatMap_def]
  exact List.rel_flatten (List.forall₂_map_left_iff.mpr reported)

/-- An invariant holds of every outcome of a report, whatever the scheduler chooses. -/
theorem traverse_ensures (inv : s.Invariant R) (schema : Schema) :
    Engine.Ensures (s.traverse schema) fun report =>
      report.package = schema.package ∧ Reported R schema.sites report.outcomes := by
  have walk : Engine.Ensures (do
      let outcomes ← s.visitBlocks schema.blocks
      return (⟨schema.package, outcomes⟩ : Report)) fun report =>
        report.package = schema.package ∧ Reported R schema.sites report.outcomes :=
    (inv.visitBlocks_ensures schema.blocks).bind fun _ reported => .pure ⟨rfl, reported⟩
  unfold traverse
  split
  · exact ((Engine.Refines.log _).ensures (P := fun _ => True) fun _ => trivial).bind
      fun _ _ => walk
  · exact walk

end Invariant

end SchemaWeaver.Service
