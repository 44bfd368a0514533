import SchemaWeaver.Proofs.Registry.History
import SchemaWeaver.Proofs.Traversal.Functional

/-!
# Side by side as one after another

The declarations of a module are tasks with outcomes of their own, so that a step of one task
commutes with a step of another as long as hooks are functions of their arguments. An order of the
steps names at each point the declaration that takes its next step; the pool takes the steps in one
of these orders. Whatever the order, the report is that of the walk in which one step is taken after
another. Registries with a visitor that is not reentrant have no other walk than this one.
-/

namespace SchemaWeaver

/-- An order of all steps of the declarations of a module: each declaration is named as often as it
has steps. -/
def Block.Interleaving (block : Block) (order : List Nat) : Prop :=
  ∀ position sites, block.declarations[position]? = some sites →
    order.count position = (sites.flatMap Site.steps).length

namespace Service

variable {σ : Type}

/-- Visits a module, and then its declarations in a given order of their steps. -/
def visitBlockIn (s : Service σ) (block : Block) (order : List Nat) : Engine σ (List Outcome) := do
  let head ← s.visitSite block.head
  let tasks ← order.foldlM s.advanceAt (block.declarations.map s.task)
  return head :: tasks.flatMap Task.outcomes

/-- Visits every node of a schema, with an order of the steps for each module. -/
def traverseIn (s : Service σ) (schema : Schema) (orders : List (List Nat)) : Engine σ Report := do
  let outcomes ← (schema.blocks.zip orders).mapM fun (block, order) => s.visitBlockIn block order
  return ⟨schema.package, outcomes.flatten⟩

section Orders

variable {s : Service σ} {R : Site → Job → Prop}

theorem pending_task (s : Service σ) (sites : List Site) :
    (s.task sites).pending = (sites.flatMap Site.steps).length := by
  rw [Task.pending_eq_length, task, List.flatMap_map]

/-- Every task has then taken one step for each time that it is named. -/
theorem Invariant.foldlM_advanceAt_ensures (inv : s.Invariant R) {declarations : List (List Site)}
    (order : List Nat) {tasks : List Task}
    (h : List.Forall₂ (List.Forall₂ R) declarations tasks) :
    Engine.Ensures (order.foldlM s.advanceAt tasks) fun tasks' =>
      List.Forall₂ (List.Forall₂ R) declarations tasks' ∧
        ∀ position, (pendings tasks')[position]? =
          (pendings tasks)[position]?.map (· - order.count position) := by
  induction order generalizing tasks with
  | nil => exact .pure ⟨h, fun position => by simp [Function.comp_def]⟩
  | cons first order ih =>
    rw [List.foldlM_cons]
    refine (inv.advanceAt_ensures h first).bind fun next kept => ?_
    refine (ih kept.1).mono fun tasks' rest => ⟨rest.1, fun position => ?_⟩
    rw [rest.2, kept.2, List.getElem?_modify]
    cases (pendings tasks)[position]? with
    | none => rfl
    | some count =>
      by_cases same : first = position
      · simp only [same, if_true, Option.map_eq_map, Option.map_some, List.count_cons_self]
        congr 1
        omega
      · simp [same, List.count_cons_of_ne same]

theorem Invariant.visitBlockIn_ensures (inv : s.Invariant R) {block : Block} {order : List Nat}
    (interleaving : block.Interleaving order) :
    Engine.Ensures (s.visitBlockIn block order) (Reported R block.sites) := by
  refine (inv.visitSite_ensures block.head).bind fun head visited => ?_
  have begun := inv.tasks_begun block.declarations
  refine (inv.foldlM_advanceAt_ensures order begun).bind fun tasks kept => .pure ?_
  have finished : ∀ task ∈ tasks, task.pending = 0 := by
    intro task member
    obtain ⟨position, present⟩ := List.getElem?_of_mem member
    have left := kept.2 position
    simp only [List.getElem?_map, present, Option.map_some] at left
    cases declared : block.declarations[position]? with
    | none => simp [declared] at left
    | some sites =>
      have steps := interleaving position sites declared
      simp only [declared, Option.map_some, Option.some.injEq, pending_task] at left
      omega
  exact .cons visited (reported_of_finished kept.1 finished)

theorem Invariant.traverseIn_ensures (inv : s.Invariant R) (schema : Schema)
    {orders : List (List Nat)}
    (interleaved : List.Forall₂ Block.Interleaving schema.blocks orders) :
    Engine.Ensures (s.traverseIn schema orders) fun report =>
      report.package = schema.package ∧ Reported R schema.sites report.outcomes := by
  have blocks : Engine.Ensures
      ((schema.blocks.zip orders).mapM fun (block, order) => s.visitBlockIn block order)
      (List.Forall₂ (fun block => Reported R block.sites) schema.blocks) := by
    generalize schema.blocks = blocks at interleaved
    induction interleaved with
    | nil => exact .pure .nil
    | cons head _ ih =>
      rw [List.zip_cons_cons, List.mapM_cons]
      exact (inv.visitBlockIn_ensures head).bind fun _ first =>
        ih.bind fun _ others => .pure (.cons first others)
  refine blocks.bind fun outcomes reported => .pure ⟨rfl, ?_⟩
  rw [Schema.sites, List.flatMap_def]
  exact List.rel_flatten (List.forall₂_map_left_iff.mpr reported)

end Orders

section Sequential

/-- Declarations are visited side by side exactly when there are several workers and every visitor
that can be found is reentrant. -/
theorem parallel_iff {s : Service σ} : s.parallel = true ↔
    1 < s.workers ∧ ∀ target v, s.registry.find? target = some v → v.reentrant = true := by
  have visitors : s.registry.visitors.values.all Visitor.reentrant = true ↔
      ∀ target v, s.registry.find? target = some v → v.reentrant = true := by
    simp only [List.all_eq_true, OrderedMap.mem_values_iff]
    constructor
    · intro all target v found
      exact all v ⟨target, found⟩
    · rintro each v ⟨target, found⟩
      exact each target v found
  rw [parallel, Bool.and_eq_true, visitors, decide_eq_true_iff, gt_iff_lt]

theorem traverse_start_one (registry : Registry σ) (config : Config) (schema : Schema) :
    (start registry config (some 1)).traverse schema =
      (start registry config (some 1)).traverseInOrder schema :=
  traverse_eq_traverseInOrder rfl schema

end Sequential

/-- When all visitors are reentrant and their hooks are functions of their arguments, there is one
report for all states, for all choices of the scheduler of a pool of any size above one, for all
orders in which the steps of the declarations of a module can be taken, and for the walk with a
single worker. With a visitor that is not reentrant there is no pool: whatever the number of
workers, the traversal is the walk with a single worker, which goes from site to site; no call of
the registry can change this, since the registry is read-only. -/
theorem traverse_forkJoin (registry : Registry σ) (config : Config) (workers? : Option Int)
    (schema : Schema) :
    let s := start registry config workers?
    let alone := start registry config (some 1)
    (1 < s.workers →
      (∀ target v, registry.find? target = some v → v.reentrant = true ∧ v.Functional) →
      s.parallel = true ∧ ∃ report, ∀ session,
        (∃ final, (s.traverse schema).run.run session = (.ok report, final)) ∧
        (∃ final, (alone.traverse schema).run.run session = (.ok report, final)) ∧
        ∀ orders, List.Forall₂ Block.Interleaving schema.blocks orders →
          ∃ final, (s.traverseIn schema orders).run.run session = (.ok report, final)) ∧
    (∀ target v, registry.find? target = some v → v.reentrant = false →
      s.parallel = false ∧
      s.traverse schema = (do
        if s.workers > 1 then Engine.log [sequentialRecord]
        alone.traverse schema) ∧
      alone.traverse schema = alone.traverseInOrder schema) ∧
    ∀ later, { s with registry := s.registry.after later } = s := by
  intro s alone
  refine ⟨fun several visitors => ?_, fun target v found notReentrant => ?_, fun later => ?_⟩
  · have functional : s.registry.Functional := fun target v found => (visitors target v found).2
    have parallel : s.parallel = true :=
      parallel_iff.mpr ⟨several, fun target v found => (visitors target v found).1⟩
    obtain ⟨outcomes, visits⟩ := visits_of_functional functional schema.nodes
    refine ⟨parallel, ⟨schema.package, outcomes⟩, fun session => ?_⟩
    -- Whatever ends with the values of all visits ends with this report.
    have unique {m : Engine σ Report} (ends : Engine.Ensures m fun report =>
        report.package = schema.package ∧
          List.Forall₂ (fun node o => s.visit node = pure o) schema.nodes report.outcomes) :
        ∃ final, m.run.run session = (.ok ⟨schema.package, outcomes⟩, final) := by
      obtain ⟨⟨package, others⟩, final, run, rfl, others_visits⟩ := ends session
      cases visits_unique session.state visits others_visits
      exact ⟨final, run⟩
    refine ⟨unique (traverse_of_functional functional schema),
      unique (traverse_of_functional (s := alone) functional schema), fun orders interleaved => ?_⟩
    refine unique (((leadsToVisit_invariant functional).traverseIn_ensures schema
      interleaved).mono fun report told => ?_)
    rw [schema.sites_eq] at told
    exact ⟨told.1, visits_of_reported told.2⟩
  · have sequential : s.parallel = false := by
      rw [Bool.eq_false_iff]
      intro parallel
      have reentrant := (parallel_iff.mp parallel).2 target v found
      exact Bool.false_ne_true (notReentrant.symm.trans reentrant)
    refine ⟨sequential, ?_, traverse_start_one registry config schema⟩
    rw [traverse_start_one, traverse_eq_traverseInOrder sequential]
    rfl
  · rw [Registry.after_of_frozen _ later rfl]

/-- A visitor that counts its calls, and must not be called from two workers at once. -/
def numbering : Visitor Nat where
  className := "NumberingVisitor"
  target := "number"
  family := .rust
  reentrant := false
  hook _ := modifyGet fun calls => (.nothing, calls + 1)

/-- A registry whose visitors keep no state. -/
def stateless : Registry Nat :=
  ⟨.rust, .refuse, .ofList [("derive", .derive), ("since", .since)], false⟩

/-- An interface with a record, which has two steps, and a function, which has one. -/
def steppedSchema : Schema :=
  let derive : Directive := ⟨"derive", .text "Clone", by decide⟩
  let since : Directive := ⟨"since", .text "0.2", by decide⟩
  { version := "1.0"
    package := "demo"
    interfaces := [⟨⟨"api", none, []⟩, none,
      [⟨⟨"point", none, [derive]⟩, 0, .record [⟨⟨"x", none, [since]⟩, "u8"⟩]⟩],
      [⟨⟨"run", none, [since]⟩, [], none⟩]⟩]
    worlds := [] }

/-- Three ways of taking the three steps give one report, and one visitor that is not reentrant
closes the pool. -/
theorem traverse_forkJoin_stepped :
    (∃ report, ∀ picks,
      (∃ final, ((start stateless .defaults (some 2)).traverse steppedSchema).run.run
        ⟨0, [], picks⟩ = (.ok report, final)) ∧
      (∃ final, ((start stateless .defaults (some 1)).traverse steppedSchema).run.run
        ⟨0, [], picks⟩ = (.ok report, final)) ∧
      ∃ final, ((start stateless .defaults (some 2)).traverseIn steppedSchema [[0, 1, 0]]).run.run
        ⟨0, [], picks⟩ = (.ok report, final)) ∧
    (start ⟨.rust, .refuse, .ofList [("number", numbering)], false⟩ .defaults (some 2)).parallel =
      false := by
  have visitors (target : String) (v : Visitor Nat) (found : stateless.find? target = some v) :
      v.reentrant = true ∧ v.Functional := by
    have member := OrderedMap.mem_of_mem_ofList (OrderedMap.find?_eq_some_iff.mp found)
    simp only [List.mem_cons, Prod.mk.injEq, List.not_mem_nil, or_false] at member
    rcases member with ⟨-, rfl⟩ | ⟨-, rfl⟩
    · exact ⟨rfl, Visitor.functional_ofFunction ..⟩
    · exact ⟨rfl, Visitor.functional_ofFunction ..⟩
  have interleaved : List.Forall₂ Block.Interleaving steppedSchema.blocks [[0, 1, 0]] := by
    refine .cons (fun position sites declared => ?_) .nil
    obtain _ | _ | position := position
    · cases declared
      decide
    · cases declared
      decide
    · cases declared
  obtain ⟨-, report, runs⟩ :=
    (traverse_forkJoin stateless .defaults (some 2) steppedSchema).1 (by decide) visitors
  refine ⟨⟨report, fun picks => ?_⟩, ?_⟩
  · obtain ⟨pool, alone, given⟩ := runs ⟨0, [], picks⟩
    exact ⟨pool, alone, given _ interleaved⟩
  · exact ((traverse_forkJoin ⟨.rust, .refuse, .ofList [("number", numbering)], false⟩ .defaults
      (some 2) steppedSchema).2.1 "number" numbering rfl rfl).1

end Service

end SchemaWeaver
