import SchemaWeaver.Proofs.Directives.Targets
import SchemaWeaver.Proofs.Traversal.Sequential

/-!
# Every target is dispatched exactly once

The calls that are due at a node are listed without the engine: one for every distinct target of the
node's annotations that has a visitor, in the order in which the targets are first addressed. A
visitor is made to note its calls in an extra component of the state. A walk with such visitors
notes exactly the calls that are due, at all nodes of the schema in the order of the report, and
gives the same report as the walk without notes; the invocations in the report are those of the same
calls. No answer of a hook has an influence on which calls follow.
-/

namespace SchemaWeaver

/-- A call that is sent to the visitor of a target. -/
structure Dispatch where
  target : String
  call : HookCall
  deriving DecidableEq, Repr

/-- How a report records a call. -/
def Dispatch.invocation (d : Dispatch) : Invocation :=
  ⟨d.target, d.call.node.kind.hookName, d.call.node.name, d.call.index⟩

/-- The visitor that notes every call it gets under a target, and answers as before. -/
def Visitor.noting {σ : Type} (target : String) (v : Visitor σ) : Visitor (σ × List Dispatch) where
  className := v.className
  target := v.target
  family := v.family
  reentrant := v.reentrant
  hook call := fun (state, calls) =>
    let (answer, next) := (v.hook call).run state
    (answer, (next, calls ++ [⟨target, call⟩]))

namespace OrderedMap

variable {α β : Type}

/-- Applies a function to every key and its value. -/
def mapEntries (f : String → α → β) (m : OrderedMap α) : OrderedMap β where
  entries := m.entries.map fun (key, value) => (key, f key value)
  nodup_keys := by simpa [Function.comp_def] using m.nodup_keys

theorem find?_mapEntries (f : String → α → β) (m : OrderedMap α) (key : String) :
    (m.mapEntries f).find? key = (m.find? key).map (f key) := by
  simp only [find?, mapEntries]
  induction m.entries with
  | nil => rfl
  | cons entry rest ih =>
    obtain ⟨k, v⟩ := entry
    rw [List.map_cons, lookup_cons_eq_ite, lookup_cons_eq_ite, ih]
    by_cases h : key = k
    · simp [h]
    · simp [h]

end OrderedMap

namespace Registry

variable {σ : Type}

/-- The registry whose visitors note their calls under the targets that they are registered for. -/
def noting (r : Registry σ) : Registry (σ × List Dispatch) where
  family := r.family
  policy := r.policy
  visitors := r.visitors.mapEntries Visitor.noting
  frozen := r.frozen

/-- The targets of a stop that have a visitor, each once, in the order in which they are first
addressed. -/
def dueTargets (r : Registry σ) (stop : Stop) : List String :=
  (stop.node.annotations.map Directive.target).eraseDups.filter r.contains

/-- The calls that are due at a stop. Each comes with everything that the annotations of the node
say to the target, the node, and the position of a member. -/
def dueAt (r : Registry σ) (stop : Stop) : List Dispatch :=
  (r.dueTargets stop).map fun target =>
    ⟨target, Directives.payloadFor stop.node.annotations target, stop.node, stop.index⟩

/-- The calls that are due at a node and at its members. -/
def due (r : Registry σ) (node : Node) : List Dispatch := node.stops.flatMap r.dueAt

theorem nodup_dueTargets (r : Registry σ) (stop : Stop) : (r.dueTargets stop).Nodup := by
  rw [dueTargets, ← distinct_eq_eraseDups]
  exact (nodup_distinct _).filter _

theorem mem_dueTargets {r : Registry σ} {stop : Stop} {target : String} :
    target ∈ r.dueTargets stop ↔
      (∃ d ∈ stop.node.annotations, d.target = target) ∧ r.contains target = true := by
  rw [dueTargets, ← distinct_eq_eraseDups, List.mem_filter, mem_distinct, List.mem_map]

end Registry

/-- The calls are counted outcome by outcome. -/
theorem Report.hooksInvoked_eq_length (r : Report) :
    r.hooksInvoked = (r.outcomes.flatMap Outcome.invocations).length := by
  unfold hooksInvoked
  induction r.outcomes with
  | nil => rfl
  | cons o others ih => rw [List.foldr_cons, ih, List.flatMap_cons, List.length_append]

namespace Service

variable {σ : Type}

/-- The service whose visitors note their calls. -/
def noting (s : Service σ) : Service (σ × List Dispatch) := ⟨s.registry.noting, s.config, s.workers⟩

/-- The call that a step makes. -/
def dispatch (step : Step) : Dispatch := ⟨step.target, hookCall step⟩

/-- The calls that steps make. -/
def dispatches (s : Service σ) (steps : List Step) : List Dispatch :=
  (steps.filter fun step => s.registry.contains step.target).map dispatch

/-- The steps of a node make the calls that are due there. -/
theorem dispatches_steps (s : Service σ) (node : Node) :
    s.dispatches node.steps = s.registry.due node := by
  have atStop (stop : Stop) : s.dispatches stop.steps = s.registry.dueAt stop := by
    rw [dispatches, Stop.steps, Directives.targets, distinct_eq_eraseDups, List.filter_map,
      List.map_map]
    rfl
  rw [dispatches, Node.steps, List.filter_flatMap, List.map_flatMap]
  exact congrArg node.stops.flatMap (funext atStop)

theorem dispatches_cons (s : Service σ) (step : Step) (steps : List Step) :
    s.dispatches (step :: steps) = s.dispatches [step] ++ s.dispatches steps := by
  simp only [dispatches, ← List.map_append, ← List.filter_append, List.singleton_append]

theorem reply_isSome (s : Service σ) (step : Step) (state : σ) :
    ((s.reply step).run state).1.isSome = s.registry.contains step.target := by
  rw [Registry.contains_eq_isSome]
  unfold reply
  cases s.registry.find? step.target <;> rfl

/-- A visit records the calls that its steps make. -/
theorem foldlM_take_invocations (s : Service σ) (steps : List Step) (o : Outcome) (state : σ) :
    ((steps.foldlM s.take o).run state).1.invocations =
      o.invocations ++ (s.dispatches steps).map Dispatch.invocation := by
  induction steps generalizing o state with
  | nil => exact (List.append_nil _).symm
  | cons step steps ih =>
    have first : ((s.take o step).run state).1.invocations =
        o.invocations ++ (s.dispatches [step]).map Dispatch.invocation := by
      change (s.takenIn step o ((s.reply step).run state).1).invocations = _
      rw [takenIn_invocations, reply_isSome]
      by_cases registered : s.registry.contains step.target = true
      · simp only [dispatches, registered, if_true, List.filter_cons, List.filter_nil,
          List.map_cons, List.map_nil]
        rfl
      · simp [dispatches, registered]
    rw [List.foldlM_cons, StateT.run_bind]
    change ((steps.foldlM s.take _).run _).1.invocations = _
    rw [ih, first, s.dispatches_cons step steps, List.map_append, List.append_assoc]

theorem visit_invocations (s : Service σ) (node : Node) (state : σ) :
    ((s.visit node).run state).1.invocations =
      (s.registry.due node).map Dispatch.invocation := by
  rw [visit, foldlM_take_invocations, dispatches_steps]
  rfl

/-- A computation with notes does what another one does without, and notes the given calls. -/
private def Notes {α : Type} (noted : StateM (σ × List Dispatch) α) (plain : StateM σ α)
    (calls : List Dispatch) : Prop :=
  ∀ state before, noted.run (state, before) =
    ((plain.run state).1, ((plain.run state).2, before ++ calls))

private theorem Notes.pure {α : Type} (a : α) :
    Notes (pure a : StateM (σ × List Dispatch) α) (Pure.pure a) [] := by
  intro state before
  rw [List.append_nil]
  rfl

private theorem Notes.bind {α β : Type} {m : StateM (σ × List Dispatch) α} {p : StateM σ α}
    {f : α → StateM (σ × List Dispatch) β} {g : α → StateM σ β} {calls more : List Dispatch}
    (first : Notes m p calls) (next : ∀ a, Notes (f a) (g a) more) :
    Notes (m >>= f) (p >>= g) (calls ++ more) := by
  intro state before
  rw [StateT.run_bind, first state before]
  change (f _).run _ = _
  rw [next, List.append_assoc]
  rfl

private theorem Notes.map {α β : Type} {m : StateM (σ × List Dispatch) α} {p : StateM σ α}
    {calls : List Dispatch} (h : Notes m p calls) (f : α → β) :
    Notes (m >>= fun a => Pure.pure (f a)) (p >>= fun a => Pure.pure (f a)) calls := by
  have := h.bind fun a => Notes.pure (f a)
  rwa [List.append_nil] at this

private theorem reply_notes (s : Service σ) (step : Step) :
    Notes (s.noting.reply step) (s.reply step) (s.dispatches [step]) := by
  have found : s.noting.registry.find? step.target =
      (s.registry.find? step.target).map (Visitor.noting step.target) :=
    OrderedMap.find?_mapEntries _ _ _
  have known := s.registry.contains_eq_isSome step.target
  unfold reply
  rw [found]
  cases hv : s.registry.find? step.target with
  | none =>
    rw [hv] at known
    simp only [dispatches, List.filter_cons, known, Option.isSome_none, Bool.false_eq_true,
      if_false, List.filter_nil, List.map_nil]
    exact .pure none
  | some v =>
    rw [hv] at known
    simp only [dispatches, List.filter_cons, known, Option.isSome_some, if_true, List.filter_nil,
      List.map_cons, List.map_nil]
    intro state before
    rfl

private theorem foldlM_take_notes (s : Service σ) (steps : List Step) (o : Outcome) :
    Notes (steps.foldlM s.noting.take o) (steps.foldlM s.take o) (s.dispatches steps) := by
  induction steps generalizing o with
  | nil => exact .pure o
  | cons step steps ih =>
    have first : Notes (s.noting.take o step) (s.take o step) (s.dispatches [step]) :=
      (s.reply_notes step).map (s.takenIn step o)
    rw [s.dispatches_cons step steps, List.foldlM_cons, List.foldlM_cons]
    exact first.bind ih

private theorem walk_notes (s : Service σ) (nodes : List Node) :
    Notes (s.noting.walk nodes) (s.walk nodes) (nodes.flatMap s.registry.due) := by
  induction nodes with
  | nil => exact .pure []
  | cons node nodes ih =>
    have head : Notes (s.noting.visit node) (s.visit node) (s.registry.due node) := by
      rw [← dispatches_steps]
      exact s.foldlM_take_notes node.steps _
    simp only [walk, List.mapM_cons, List.flatMap_cons]
    exact head.bind fun o => ih.map fun others => o :: others

theorem walk_invocations (s : Service σ) (nodes : List Node) (state : σ) :
    ((s.walk nodes).run state).1.map Outcome.invocations =
      nodes.map fun node => (s.registry.due node).map Dispatch.invocation := by
  induction nodes generalizing state with
  | nil => rfl
  | cons node nodes ih =>
    simp only [walk, List.mapM_cons, StateT.run_bind]
    exact congrArg₂ List.cons (s.visit_invocations node state) (ih _)

theorem noting_parallel (s : Service σ) : s.noting.parallel = s.parallel := by
  simp only [parallel, noting, Registry.noting, OrderedMap.values, OrderedMap.mapEntries,
    List.all_map, List.map_map]
  rfl

/-- With visitors that note their calls a walk in order gives the same report, and notes the calls
that are due. -/
theorem traverse_noting {s : Service σ} (sequential : s.parallel = false) {schema : Schema}
    {session final : Session σ} {report : Report}
    (run : (s.traverse schema).run.run session = (.ok report, final)) (noted : List Dispatch) :
    ∃ final', (s.noting.traverse schema).run.run
        ⟨(session.state, noted), session.log, session.picks⟩ = (.ok report, final') ∧
      final'.state = (final.state, noted ++ schema.nodes.flatMap s.registry.due) := by
  obtain ⟨_, plain⟩ := traverse_refines sequential schema session
  obtain ⟨_, noting⟩ := traverse_refines (s.noting_parallel.trans sequential) schema
    ⟨(session.state, noted), session.log, session.picks⟩
  have notes := (s.walk_notes schema.nodes).map (Report.mk schema.package) session.state noted
  rw [← map_eq_pure_bind, ← map_eq_pure_bind] at notes
  dsimp only at noting
  rw [notes] at noting
  cases run.symm.trans plain
  exact ⟨_, noting, rfl⟩

/-- In a walk in order, the invocations of every outcome are the calls that are due at its node, and
the calls that the visitors get are all calls that are due, each once, in the same order: with
visitors that note their calls the walk gives the same report and leaves the same state, and notes
these calls. A call is due for a target when the target has a visitor and some annotation of the
node addresses it. -/
theorem traverse_dispatches_once (s : Service σ) (schema : Schema) (session : Session σ)
    (sequential : s.parallel = false) :
    ∃ report final, (s.traverse schema).run.run session = (.ok report, final) ∧
      report.outcomes.map Outcome.invocations =
        schema.nodes.map (fun node => (s.registry.due node).map Dispatch.invocation) ∧
      report.outcomes.flatMap Outcome.invocations =
        (schema.nodes.flatMap s.registry.due).map Dispatch.invocation ∧
      report.hooksInvoked = (schema.nodes.flatMap s.registry.due).length ∧
      (∀ noted, ∃ final',
        (s.noting.traverse schema).run.run ⟨(session.state, noted), session.log, session.picks⟩ =
          (.ok report, final') ∧
        final'.state = (final.state, noted ++ schema.nodes.flatMap s.registry.due)) ∧
      ∀ stop, (s.registry.dueTargets stop).Nodup ∧ ∀ target, target ∈ s.registry.dueTargets stop ↔
        (∃ d ∈ stop.node.annotations, d.target = target) ∧ s.registry.contains target = true := by
  obtain ⟨log, run⟩ := traverse_refines sequential schema session
  have each := s.walk_invocations schema.nodes session.state
  have all := congrArg List.flatten each
  rw [← List.flatMap_def, ← List.flatMap_def, ← List.map_flatMap] at all
  refine ⟨_, _, run, each, all, ?_, ?_, ?_⟩
  · have count := congrArg List.length all
    rwa [← Report.hooksInvoked_eq_length ⟨schema.package, _⟩, List.length_map] at count
  · intro noted
    have sequential' : s.noting.parallel = false := s.noting_parallel.trans sequential
    obtain ⟨log', run'⟩ := traverse_refines sequential' schema
      ⟨(session.state, noted), session.log, session.picks⟩
    have notes := (s.walk_notes schema.nodes).map (Report.mk schema.package) session.state noted
    rw [← map_eq_pure_bind, ← map_eq_pure_bind] at notes
    dsimp only at run'
    rw [notes] at run'
    exact ⟨_, run', rfl⟩
  · exact fun stop => ⟨s.registry.nodup_dueTargets stop, fun target => Registry.mem_dueTargets⟩

/-- A service with one visitor, whose hook fails from its second call on. -/
def tiring : Service Nat :=
  let visitor : Visitor Nat :=
    { className := "TiringVisitor", target := "log", family := .rust, reentrant := false,
      hook := fun _ =>
        modifyGet fun calls => (if calls = 0 then .nothing else .failure "tired", calls + 1) }
  .start ⟨.rust, .refuse, .ofList [("log", visitor)], false⟩ .defaults (some 4)

/-- An annotation for the visitor of `tiring`. -/
def logDirective (payload : DirectivePayload) : Directive := ⟨"log", payload, by decide⟩

/-- An annotation for which `tiring` has no visitor. -/
def lintDirective (payload : DirectivePayload) : Directive := ⟨"lint", payload, by decide⟩

/-- An interface with a record. Of the targets, `lint` has no visitor and `log` is addressed three
times in one place. -/
def loggedSchema : Schema :=
  let log (text : String) : Directive := logDirective (.text text)
  let field (name : String) (annotations : List Directive) : RecordField :=
    ⟨⟨name, none, annotations⟩, "u8"⟩
  let point : TypeDefinition :=
    ⟨⟨"point", none, []⟩, 0, .record [field "x" [], field "y" [log "a"]]⟩
  { version := "1.0"
    package := "demo"
    interfaces := [⟨⟨"api", none, [log "", lintDirective (.text ""), log "b", log ""]⟩, none,
      [point], []⟩]
    worlds := [] }

/-- The calls after a failed one are made all the same. -/
theorem traverse_dispatches_once_tiring : tiring.parallel = false ∧
    ∃ report final, (tiring.traverse loggedSchema).run.run ⟨0, [], []⟩ = (.ok report, final) ∧
      report.outcomes.flatMap Outcome.invocations =
        [⟨"log", "visit_interface", "api", none⟩, ⟨"log", "visit_field", "y", some 1⟩] ∧
      report.hooksInvoked = 2 := by
  obtain ⟨report, final, run, -, invocations, count, -⟩ :=
    traverse_dispatches_once tiring loggedSchema ⟨0, [], []⟩ rfl
  exact ⟨rfl, report, final, run, invocations.trans (by decide), count.trans (by decide)⟩

end Service

end SchemaWeaver
