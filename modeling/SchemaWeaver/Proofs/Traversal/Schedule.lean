import Mathlib.Algebra.GroupWithZero.Nat
import SchemaWeaver.Traversal.Pool

/-!
# Schedules of the pool

What the pool does is one move again and again: the task at some position takes its next step. Which
position that is does not matter here. A scheduler only moves tasks that are not finished, and as
long as there are workers and unfinished tasks it finds one to move; this is why the number of steps
that is counted in advance is enough to finish all of them.
-/

namespace SchemaWeaver

theorem Task.pending_cons (job : Job) (others : Task) :
    Task.pending (job :: others) = job.steps.length + Task.pending others := rfl

/-- A finished task has no step left in any of its jobs. -/
theorem Task.steps_of_pending_eq_zero {task : Task} (finished : task.pending = 0) :
    ∀ job ∈ task, job.steps = [] := by
  induction task with
  | nil => exact fun _ member => absurd member List.not_mem_nil
  | cons job others ih =>
    rw [Task.pending_cons, Nat.add_eq_zero_iff, List.length_eq_zero_iff] at finished
    exact List.forall_mem_cons.mpr ⟨finished.1, ih finished.2⟩

theorem Task.pending_eq_length (task : Task) : task.pending = (task.flatMap Job.steps).length := by
  induction task with
  | nil => rfl
  | cons job others ih => rw [Task.pending_cons, ih, List.flatMap_cons, List.length_append]

/-- One step less for one task is one step less in all. -/
theorem sum_modify_pred {counts : List Nat} {position count : Nat}
    (present : counts[position]? = some count) (positive : 0 < count) :
    (counts.modify position (· - 1)).sum + 1 = counts.sum := by
  induction counts generalizing position with
  | nil => cases present
  | cons first counts ih =>
    cases position with
    | zero =>
      cases present
      simp only [List.modify_zero_cons, List.sum_cons]
      omega
    | succ position =>
      have later := ih (by simpa using present)
      simp only [List.modify_succ_cons, List.sum_cons]
      omega

namespace Service

variable {σ : Type} (s : Service σ)

/-- Lets the task at a position take its next step. -/
def advanceAt (tasks : List Task) (position : Nat) : Engine σ (List Task) :=
  match tasks[position]? with
  | none => pure tasks
  | some task => do
    let task ← s.advance task
    return tasks.set position task

/-- The numbers of steps that tasks still have to take. -/
abbrev pendings (tasks : List Task) : List Nat := tasks.map Task.pending

theorem foldr_pending_eq_sum (tasks : List Task) :
    tasks.foldr (fun task count => task.pending + count) 0 = (pendings tasks).sum := by
  rw [List.sum_eq_foldr, List.foldr_map]

theorem advanceChosen_eq (tasks : List Task) :
    s.advanceChosen tasks = (do
      let pick ← Engine.nextPick
      match (s.active tasks)[pick % (s.active tasks).length]? with
      | none => pure tasks
      | some position => s.advanceAt tasks position) := rfl

theorem mem_active {tasks : List Task} {position : Nat} (h : position ∈ s.active tasks) :
    ∃ count, (pendings tasks)[position]? = some count ∧ 0 < count := by
  obtain ⟨⟨task, place⟩, member, rfl⟩ := List.mem_map.mp (List.mem_of_mem_take h)
  obtain ⟨listed, unfinished⟩ := List.mem_filter.mp member
  have present : tasks[place]? = some task := List.mem_zipIdx_iff_getElem?.mp listed
  exact ⟨task.pending, by simp [present], by simpa using unfinished⟩

theorem sum_pendings_of_active_eq_nil {tasks : List Task} (workers : 0 < s.workers)
    (idle : s.active tasks = []) : (pendings tasks).sum = 0 := by
  have some_worker : s.workers.toNat ≠ 0 := by omega
  rw [active, List.take_eq_nil_iff, List.map_eq_nil_iff, List.filter_eq_nil_iff] at idle
  have finished := idle.resolve_left some_worker
  rw [List.sum_eq_zero_iff_forall_eq_nat]
  intro count member
  obtain ⟨task, present, rfl⟩ := List.mem_map.mp member
  obtain ⟨place, at_place⟩ := List.getElem?_of_mem present
  simpa using finished (task, place) (List.mem_zipIdx_iff_getElem?.mpr at_place)

/-- A choice moves an unfinished task, unless all tasks are finished. -/
theorem chosen_cases (workers : 0 < s.workers) (tasks : List Task) (pick : Nat) :
    ((s.active tasks)[pick % (s.active tasks).length]? = none ∧ (pendings tasks).sum = 0) ∨
    ∃ position count,
      (s.active tasks)[pick % (s.active tasks).length]? = some position ∧
      (pendings tasks)[position]? = some count ∧ 0 < count := by
  cases chosen : (s.active tasks)[pick % (s.active tasks).length]? with
  | none =>
    have idle : s.active tasks = [] := by
      refine Decidable.byContradiction fun busy => ?_
      have inside := Nat.mod_lt pick (List.length_pos_iff.mpr busy)
      rw [List.getElem?_eq_none_iff] at chosen
      omega
    exact .inl ⟨rfl, s.sum_pendings_of_active_eq_nil workers idle⟩
  | some position =>
    obtain ⟨count, present, positive⟩ := s.mem_active (List.mem_of_getElem? chosen)
    exact .inr ⟨position, count, rfl, present, positive⟩

end Service

end SchemaWeaver
