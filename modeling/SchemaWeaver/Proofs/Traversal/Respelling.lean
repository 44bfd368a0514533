import SchemaWeaver.Proofs.Directives.Respelling
import SchemaWeaver.Proofs.Registry.Build
import SchemaWeaver.Proofs.Traversal.Collisions
import SchemaWeaver.Proofs.Traversal.Functional

/-!
# Traversals of schemas that are written differently

Two schemas are compared that differ in how the options of their directives are written, at any
number of nodes and members. At corresponding steps the visitors are told the same. So visitors that
are functions of what they are told, as the built-in ones are, answer the same, and both traversals
report the same. What may differ is which keys are told to be set more than once, and in which
order; so the steps are compared for services that do not tell of such keys.
-/

namespace SchemaWeaver

/-- The schema without any directives. -/
def Schema.bare : Schema → Schema := Schema.reannotate fun _ => []

/-- Schemas that are the same apart from the annotations of their nodes and members, and these
differ in how options are written only. -/
structure Schema.Respelled (schema schema' : Schema) : Prop where
  bare_eq : schema'.bare = schema.bare
  annotations : List.Forall₂ (fun node node' => List.Forall₂ (fun stop stop' =>
    Directives.Respelled stop.node.annotations stop'.node.annotations) node.stops node'.stops)
    schema.nodes schema'.nodes

/-- Steps at which a target is told the same. -/
structure Step.Alike (step step' : Step) : Prop where
  target_eq : step'.target = step.target
  call : (Service.hookCall step).Related Payload.SameText (Service.hookCall step')

/-- Nodes that are the same apart from annotations, and at whose steps the same is told. -/
structure Node.Alike (node node' : Node) : Prop where
  bare_eq : node'.bare = node.bare
  steps : List.Forall₂ Step.Alike node.steps node'.steps

/-- A registry whose visitors do not tell payloads apart that have the same texts and options. -/
def Registry.Respects {σ : Type} (r : Registry σ) : Prop :=
  ∀ target v, r.find? target = some v → v.Respects Payload.SameText

section Listing

/-- Lists with the same image are related member by member. -/
private theorem forall₂_of_map_eq {α β : Type} {f : α → β} {xs ys : List α}
    (h : ys.map f = xs.map f) : List.Forall₂ (fun x y => f y = f x) xs ys := by
  rw [← List.forall₂_eq_eq_eq, List.forall₂_map_left_iff, List.forall₂_map_right_iff] at h
  exact h.flip

theorem Stop.steps_alike {stop stop' : Stop} (index_eq : stop'.index = stop.index)
    (bare_eq : stop'.node.bare = stop.node.bare)
    (same : Directives.SaySame stop.node.annotations stop'.node.annotations) :
    List.Forall₂ Step.Alike stop.steps stop'.steps := by
  rw [Stop.steps, Stop.steps, same.targets_eq, List.forall₂_map_left_iff,
    List.forall₂_map_right_iff]
  exact List.forall₂_same.mpr fun target _ => ⟨rfl, same.payloadFor target, bare_eq, index_eq⟩

theorem Node.alike_of_respelled {node node' : Node} (bare_eq : node'.bare = node.bare)
    (respelled : List.Forall₂ (fun stop stop' =>
      Directives.Respelled stop.node.annotations stop'.node.annotations) node.stops node'.stops) :
    node.Alike node' where
  bare_eq := bare_eq
  steps := by
    have places : node'.stops.map (fun stop => Stop.mk stop.node.bare stop.index) =
        node.stops.map fun stop => Stop.mk stop.node.bare stop.index := by
      simp only [Node.bare, ← Node.stops_reannotate]
      exact congrArg Node.stops bare_eq
    have stops : List.Forall₂ (fun stop stop' => stop'.index = stop.index ∧
        stop'.node.bare = stop.node.bare ∧
        Directives.SaySame stop.node.annotations stop'.node.annotations) node.stops node'.stops :=
      (forall₂_of_map_eq places).mp (fun _ _ place written =>
        ⟨(Stop.mk.inj place).2, (Stop.mk.inj place).1, written.saySame⟩) respelled
    refine List.rel_flatMap stops ?_
    rintro stop stop' ⟨index_eq, bare_eq, same⟩
    exact Stop.steps_alike index_eq bare_eq same

theorem Schema.Respelled.nodes_alike {schema schema' : Schema} (h : schema.Respelled schema') :
    List.Forall₂ Node.Alike schema.nodes schema'.nodes := by
  have nodes : schema'.nodes.map Node.bare = schema.nodes.map Node.bare := by
    have listed := congrArg Schema.nodes h.bare_eq
    rw [Schema.bare, Schema.nodes_reannotate, Schema.nodes_reannotate] at listed
    exact listed
  exact (forall₂_of_map_eq nodes).mp (fun _ _ => Node.alike_of_respelled) h.annotations

end Listing

namespace Service

variable {σ : Type} {s : Service σ} {step step' : Step}

theorem reply_alike (respects : s.registry.Respects) (alike : step.Alike step') :
    s.reply step' = s.reply step := by
  rw [reply, reply, alike.target_eq]
  cases found : s.registry.find? step.target with
  | none => rfl
  | some v => exact congrArg (some <$> ·) (respects _ v found _ _ alike.call)

/-- How an answer is settled depends on the target, and on the kind and the name of the node. -/
theorem settled_congr (target_eq : step'.target = step.target)
    (kind_eq : step'.stop.node.kind = step.stop.node.kind)
    (name_eq : step'.stop.node.name = step.stop.node.name) (o : Outcome) (answer : Answer) :
    s.settled step' o answer = s.settled step o answer := by
  rw [settled, settled, merged?_congr kind_eq name_eq, complaints_congr target_eq kind_eq name_eq]

/-- Replies to steps at which the same is told are taken in in the same way, when collisions are not
told. -/
theorem takenIn_alike (alike : step.Alike step') (o : Outcome) (reply : Option Answer) :
    (s.warning false).takenIn step' o reply = (s.warning false).takenIn step o reply := by
  have kind_eq : step'.stop.node.kind = step.stop.node.kind := alike.call.kind_eq
  have name_eq : step'.stop.node.name = step.stop.node.name := alike.call.name_eq
  have index_eq : step'.stop.index = step.stop.index := alike.call.index_eq
  have silent (step : Step) : (s.warning false).collisionDiagnostics step o = [] := rfl
  cases reply with
  | none => rw [takenIn, takenIn, silent, silent, missDiagnostic, missDiagnostic, alike.target_eq]
  | some answer =>
    have asks : (s.warning false).asking step' o = (s.warning false).asking step o := by
      rw [asking, asking, silent, silent, invocation, invocation, alike.target_eq, kind_eq, name_eq,
        index_eq]
    rw [takenIn, takenIn, asks, settled_congr alike.target_eq kind_eq name_eq]

theorem take_alike (respects : s.registry.Respects) (alike : step.Alike step') (o : Outcome) :
    (s.warning false).take o step' = (s.warning false).take o step := by
  have replies : (s.warning false).reply step' = (s.warning false).reply step :=
    reply_alike respects alike
  rw [take, take, replies, funext (takenIn_alike alike o)]

/-- Visits to nodes at which the same is told differ in what they tell about collisions only. -/
theorem visit_alike (respects : s.registry.Respects) {node node' : Node}
    (alike : node.Alike node') : (s.warning false).visit node' = (s.warning false).visit node := by
  have kind : node'.kind = node.kind := by
    simpa [Node.bare] using congrArg Node.kind alike.bare_eq
  have name : node'.name = node.name := by
    simpa [Node.bare] using congrArg Node.name alike.bare_eq
  have begins : (s.warning false).begin node' = (s.warning false).begin node := by
    rw [begin, begin, kind, name]
  rw [visit, visit, begins]
  have steps := alike.steps
  generalize (s.warning false).begin node = o, node.steps = steps, node'.steps = steps' at steps
  induction steps generalizing o with
  | nil => rfl
  | cons first _ ih =>
    rw [List.foldlM_cons, List.foldlM_cons, take_alike respects first]
    exact congrArg _ (funext ih)

/-- What traversals report are the values of the visits, in their order. -/
theorem map_hushed_of_visits {nodes : List Node} {outcomes : List Outcome}
    (visits : List.Forall₂ (fun node o => s.visit node = pure o) nodes outcomes) :
    nodes.map (s.warning false).visit = (outcomes.map Outcome.hushed).map pure := by
  induction visits with
  | nil => rfl
  | cons visit _ ih =>
    rw [List.map_cons, ih, visit_hushed, visit]
    rfl

/-- Hooks that are functions of what is told report the same for schemas that are written
differently. -/
theorem traverse_alike (functional : s.registry.Functional) (respects : s.registry.Respects)
    {schema schema' : Schema} (respelled : schema.Respelled schema')
    (session session' : Session σ) :
    ∃ report final report' final',
      (s.traverse schema).run.run session = (.ok report, final) ∧
      (s.traverse schema').run.run session' = (.ok report', final') ∧
      report'.package = report.package ∧
      report'.outcomes.map Outcome.hushed = report.outcomes.map Outcome.hushed := by
  obtain ⟨report, final, run, package, visits⟩ := traverse_of_functional functional schema session
  obtain ⟨report', final', run', package', visits'⟩ :=
    traverse_of_functional functional schema' session'
  refine ⟨report, final, report', final', run, run', ?_, ?_⟩
  · rw [package, package']
    exact (congrArg Schema.package respelled.bare_eq :)
  · have same : schema'.nodes.map (s.warning false).visit =
        schema.nodes.map (s.warning false).visit := by
      have nodes := respelled.nodes_alike
      generalize schema.nodes = nodes, schema'.nodes = nodes' at nodes
      induction nodes with
      | nil => rfl
      | cons alike _ ih => rw [List.map_cons, List.map_cons, visit_alike respects alike, ih]
    rw [map_hushed_of_visits visits, map_hushed_of_visits visits'] at same
    have value (outcomes : List Outcome) : (outcomes.map pure).map (fun m : StateM σ Outcome =>
        (m.run session.state).1) = outcomes := by
      rw [List.map_map]
      exact List.map_id _
    rw [← value (report'.outcomes.map _), same, value]

/-- What is generated does not depend on how options are written. The visitors shipped for a backend
use options as a finite map: a hook does the same whenever every key holds the same, in whichever
order the keys stand. Let the options on any nodes and members of a schema be written differently,
with the keys of a map in another order, or with a map cut into several ones of the same target, or
with such maps joined. Then traversals of both schemas with the shipped visitors succeed and report
the same outcomes, that is the same contributions, actions, calls and diagnostics in the same order,
apart from the diagnostics on keys that are set more than once. -/
theorem traverse_respelled {backend : Backend} (shipped : backend ∈ Backend.all)
    (policy : DuplicatePolicy) (config : Config) (workers? : Option Int) {schema schema' : Schema}
    (respelled : schema.Respelled schema') (session session' : Session σ) :
    ∃ (visitors : List (Visitor σ)) (registry : Registry σ),
      Backend.defaultVisitors backend.name = .ok visitors ∧
      Registry.build visitors none policy = .ok (registry, []) ∧
      (∀ v ∈ visitors, ∀ (call : HookCall) (options : OrderedMap String),
        (∀ key, options.find? key = call.payload.options.find? key) →
        v.hook { call with payload := { call.payload with options := options } } = v.hook call) ∧
      ∃ report final report' final',
        ((start registry config workers?).traverse schema).run.run session = (.ok report, final) ∧
        ((start registry config workers?).traverse schema').run.run session' =
          (.ok report', final') ∧
        report'.package = report.package ∧
        report'.outcomes.map Outcome.hushed = report.outcomes.map Outcome.hushed := by
  obtain ⟨visitors, defaults, behave, built⟩ :=
    Backend.build_defaultVisitors (σ := σ) shipped policy
  have respect : ∀ v ∈ visitors, v.Respects Payload.SameText :=
    fun v member => Visitor.builtin_respects (Backend.defaultVisitors_subset defaults member)
  refine ⟨visitors, _, defaults, built, ?_, ?_⟩
  · intro v member call options same
    exact respect v member _ _ ⟨⟨⟨rfl, same⟩, rfl⟩, rfl, rfl⟩
  · generalize reg : (⟨backend, policy, _, false⟩ : Registry σ) = registry
    have found {target : String} {v : Visitor σ} (h : registry.find? target = some v) :
        v ∈ visitors := by
      subst reg
      exact Registry.mem_of_find?_underTargets h
    refine traverse_alike (fun target v h => ?_) (fun target v h => respect v (found h)) respelled
      session session'
    obtain ⟨-, answer, acts, -⟩ := behave v (found h)
    exact ⟨answer, acts⟩

/-- An interface with a function that has the given annotations. -/
def annotatedSchema (annotations : List Directive) : Schema where
  version := "1.0"
  package := "demo"
  interfaces := [⟨⟨"api", none, []⟩, none, [], [⟨⟨"get", none, annotations⟩, [], none⟩]⟩]
  worlds := []

/-- A deprecation with the given options. -/
def deprecation (entries : List (String × String)) : Directive :=
  ⟨"deprecated", .options (.ofList entries), by decide⟩

theorem traverse_respelled_deprecation : Backend.rust ∈ Backend.all ∧
    (annotatedSchema [deprecation [("since", "2"), ("note", "slow")]]).Respelled
      (annotatedSchema [deprecation [("note", "slow")], deprecation [("since", "2")]]) ∧
    ∃ (registry : Registry Unit) (report : Report) (final : Session Unit) (report' : Report)
      (final' : Session Unit),
      Registry.build Visitor.rustDefaults none .refuse = .ok (registry, []) ∧
      ((start registry .defaults none).traverse
        (annotatedSchema [deprecation [("since", "2"), ("note", "slow")]])).run.run ⟨(), [], []⟩ =
          (.ok report, final) ∧
      ((start registry .defaults none).traverse
        (annotatedSchema [deprecation [("note", "slow")], deprecation [("since", "2")]])).run.run
          ⟨(), [], []⟩ = (.ok report', final') ∧
      report'.outcomes.map Outcome.hushed = report.outcomes.map Outcome.hushed := by
  have shipped : Backend.rust ∈ Backend.all := by decide
  have reordered : (OrderedMap.ofList [("since", "2"), ("note", "slow")]).entries.Perm
      (OrderedMap.ofList [("note", "slow"), ("since", "2")]).entries := .swap ..
  have nonempty : [OrderedMap.ofList [("note", "slow")], .ofList [("since", "2")]] ≠ [] :=
    List.cons_ne_nil _ _
  have cut : (OrderedMap.ofList [("note", "slow"), ("since", "2")]).entries =
      [.ofList [("note", "slow")], .ofList [("since", "2")]].flatMap OrderedMap.entries := rfl
  have written : Directives.Respelled [deprecation [("since", "2"), ("note", "slow")]]
      [deprecation [("note", "slow")], deprecation [("since", "2")]] :=
    .trans _ _ _ (.rel _ _ (.permute [] [] (deprecation []) reordered))
      (.rel _ _ (.split [] [] (deprecation []) nonempty cut))
  have respelled : (annotatedSchema [deprecation [("since", "2"), ("note", "slow")]]).Respelled
      (annotatedSchema [deprecation [("note", "slow")], deprecation [("since", "2")]]) :=
    ⟨rfl, .cons (.cons (.refl _) .nil) (.cons (.cons written .nil) .nil)⟩
  obtain ⟨visitors, registry, defaults, built, -, report, final, report', final', run, run', -,
      outcomes⟩ :=
    traverse_respelled shipped .refuse .defaults none respelled (⟨(), [], []⟩ : Session Unit)
      ⟨(), [], []⟩
  cases defaults
  exact ⟨shipped, respelled, registry, report, final, report', final', built, run, run', outcomes⟩

end Service

end SchemaWeaver
