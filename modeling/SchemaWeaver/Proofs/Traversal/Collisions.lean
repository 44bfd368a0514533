import SchemaWeaver.Proofs.Directives.Collisions
import SchemaWeaver.Proofs.Traversal.Dispatch

/-!
# The switch for collisions

A service tells of the keys that are set more than once, or does not. Two walks are compared that
differ in this switch only. A step asks the registry in the same way in both, and takes in the same
reply on outcomes that differ in diagnostics on collisions only; so the walks differ in these
diagnostics only.

What is told with the switch on is listed without the engine: the collisions of a node are the keys
that at least two option maps of one target set, at the node itself or at one of its members.
-/

namespace SchemaWeaver

/-- A key that several option maps of the target of a step set. -/
structure Collision where
  step : Step
  key : String
  deriving DecidableEq, Repr

/-- What is told about a collision in the outcome of a node. -/
def Collision.diagnostic (node : Node) (c : Collision) : Diagnostic :=
  ⟨.keyCollision, c.step.target, node.name, Service.collisionMessage c.step c.key⟩

/-- The collisions at the place of a step. -/
def Step.collisions (step : Step) : List Collision :=
  (Directives.collisions step.stop.node.annotations step.target).map (Collision.mk step)

/-- The collisions at a node and at its members. -/
def Node.collisions (node : Node) : List Collision := node.steps.flatMap Step.collisions

section Listing

/-- Lists whose members tell which list they come from do not overlap. -/
private theorem nodup_flatMap_of_origin {α β : Type} {xs : List α} {f : α → List β} (origin : β → α)
    (nodup : xs.Nodup) (each : ∀ x, (f x).Nodup) (comes : ∀ x, ∀ y ∈ f x, origin y = x) :
    (xs.flatMap f).Nodup := by
  refine List.nodup_flatMap.mpr ⟨fun x _ => each x, nodup.imp ?_⟩
  intro x x' different y inside inside'
  exact different ((comes x y inside).symm.trans (comes x' y inside'))

theorem Node.nodup_stops (node : Node) : node.stops.Nodup := by
  refine List.nodup_cons.mpr ⟨fun member => ?_, ?_⟩
  · have placed := (Node.of_mem_memberStops member).2
    cases placed
  · have positions : node.memberStops.map Stop.index =
        (List.range' 0 node.members.length).map fun position => some (Int.ofNat position) := by
      rw [Node.memberStops, List.map_map, ← List.zipIdx_map_snd, List.map_map]
      rfl
    have distinctPositions : (node.memberStops.map Stop.index).Nodup := by
      rw [positions]
      refine (List.nodup_range').map fun position position' same => ?_
      exact Int.ofNat.inj (Option.some.inj same)
    exact List.Nodup.of_map Stop.index distinctPositions

theorem Stop.nodup_steps (stop : Stop) : stop.steps.Nodup :=
  (nodup_distinct _).map fun _ _ same => congrArg Step.target same

theorem Step.of_mem_steps {stop : Stop} {step : Step} (h : step ∈ stop.steps) :
    step.stop = stop ∧ step.target ∈ Directives.targets stop.node.annotations := by
  obtain ⟨target, addressed, rfl⟩ := List.mem_map.mp h
  exact ⟨rfl, addressed⟩

theorem Node.nodup_steps (node : Node) : node.steps.Nodup :=
  nodup_flatMap_of_origin Step.stop node.nodup_stops Stop.nodup_steps
    fun _ _ inside => (Step.of_mem_steps inside).1

theorem Step.of_mem_collisions {step : Step} {c : Collision} (h : c ∈ step.collisions) :
    c.step = step ∧ c.key ∈ Directives.collisions step.stop.node.annotations step.target := by
  obtain ⟨key, inside, rfl⟩ := List.mem_map.mp h
  exact ⟨rfl, inside⟩

/-- No collision is listed twice. -/
theorem Node.nodup_collisions (node : Node) : node.collisions.Nodup :=
  nodup_flatMap_of_origin Collision.step node.nodup_steps
    (fun _ => (Directives.nodup_collisions _ _).map fun _ _ same => congrArg Collision.key same)
    fun _ _ inside => (Step.of_mem_collisions inside).1

/-- The collisions of a node are the keys that at least two option maps for one target set at one of
the stops of the node. -/
theorem Node.mem_collisions {node : Node} {c : Collision} :
    c ∈ node.collisions ↔ c.step.stop ∈ node.stops ∧
      2 ≤ c.step.stop.node.annotations.countP (Directive.sets c.step.target c.key) := by
  rw [← Directives.mem_collisions]
  constructor
  · intro listed
    obtain ⟨step, taken, inside⟩ := List.mem_flatMap.mp listed
    obtain ⟨stop, isStop, addressed⟩ := List.mem_flatMap.mp taken
    obtain ⟨rfl, collides⟩ := Step.of_mem_collisions inside
    exact ⟨(Step.of_mem_steps addressed).1 ▸ isStop, collides⟩
  · rintro ⟨isStop, collides⟩
    have addressed : c.step ∈ c.step.stop.steps :=
      List.mem_map.mpr ⟨_, Directives.mem_targets_of_mem_collisions collides, rfl⟩
    exact List.mem_flatMap.mpr ⟨c.step, List.mem_flatMap.mpr ⟨_, isStop, addressed⟩,
      List.mem_map.mpr ⟨c.key, collides, rfl⟩⟩

end Listing

namespace Outcome

/-- The diagnostics on keys that are set more than once. -/
def collisions (o : Outcome) : List Diagnostic :=
  o.diagnostics.filter fun d => d.kind = .keyCollision

/-- The outcome without the diagnostics on keys that are set more than once. -/
def hushed (o : Outcome) : Outcome :=
  { o with diagnostics := o.diagnostics.filter fun d => d.kind ≠ .keyCollision }

variable {o : Outcome} {ds : List Diagnostic}

theorem hushed_told_collisions (h : ∀ d ∈ ds, d.kind = .keyCollision) :
    (o.told ds).hushed = o.hushed := by
  have dropped : ds.filter (fun d => d.kind ≠ .keyCollision) = [] :=
    List.filter_eq_nil_iff.mpr fun d member => by simpa using h d member
  simp only [hushed, told, List.filter_append, dropped, List.append_nil]

theorem hushed_told_others (h : ∀ d ∈ ds, d.kind ≠ .keyCollision) :
    (o.told ds).hushed = o.hushed.told ds := by
  have kept : ds.filter (fun d => d.kind ≠ .keyCollision) = ds :=
    List.filter_eq_self.mpr fun d member => by simpa using h d member
  simp only [hushed, told, List.filter_append, kept]

end Outcome

namespace Service

variable {σ : Type} (s : Service σ) (step : Step) (o : Outcome)

/-- The service that tells of keys that are set more than once, or does not. -/
def warning (s : Service σ) (wanted : Bool) : Service σ :=
  { s with config := { s.config with warnOnKeyCollision := wanted } }

section Steps

variable {s step o}

theorem kind_of_mem_collisionDiagnostics {d : Diagnostic} (h : d ∈ s.collisionDiagnostics step o) :
    d.kind = .keyCollision := by
  obtain ⟨key, rfl⟩ := exists_of_mem_collisionDiagnostics h
  rfl

theorem kind_of_mem_complaints {answer : Answer} {d : Diagnostic}
    (h : d ∈ s.complaints step o answer) : d.kind ≠ .keyCollision := by
  unfold complaints at h
  repeat' split at h
  all_goals simp only [List.mem_singleton, List.not_mem_nil] at h
  all_goals
    subst h
    exact nofun

theorem collisionDiagnostics_congr {o' : Outcome} (h : o'.name = o.name) :
    s.collisionDiagnostics step o' = s.collisionDiagnostics step o := by
  simp only [collisionDiagnostics, Outcome.diagnostic, h]

end Steps

theorem merged?_hushed (answer : Answer) :
    (s.warning false).merged? step o.hushed answer =
      (s.merged? step o answer).map Outcome.hushed :=
  s.merged?_mapEntries step o (List.filter fun d => d.kind ≠ .keyCollision) id answer

theorem complaints_hushed (answer : Answer) :
    (s.warning false).complaints step o.hushed answer = s.complaints step o answer :=
  s.complaints_mapEntries step o (List.filter fun d => d.kind ≠ .keyCollision) id answer

theorem settled_hushed (answer : Answer) :
    (s.warning false).settled step o.hushed answer = (s.settled step o answer).hushed := by
  rw [settled, settled, merged?_hushed, complaints_hushed,
    Outcome.hushed_told_others fun d => kind_of_mem_complaints]
  cases s.merged? step o answer <;> rfl

/-- A step with the switch off takes in what it takes in with the switch on, apart from the
collisions. -/
theorem takenIn_hushed (reply : Option Answer) :
    (s.warning false).takenIn step o.hushed reply = (s.takenIn step o reply).hushed := by
  have collisions : ∀ d ∈ s.collisionDiagnostics step o, d.kind = .keyCollision :=
    fun d => kind_of_mem_collisionDiagnostics
  have silent : (s.warning false).collisionDiagnostics step o.hushed = [] := rfl
  cases reply with
  | none =>
    have miss : ∀ d ∈ [missDiagnostic step o], d.kind ≠ .keyCollision := by
      intro d member
      rw [List.mem_singleton.mp member]
      exact nofun
    rw [takenIn, takenIn, silent, ← Outcome.told_told, ← Outcome.told_told, Outcome.told_nil,
      Outcome.hushed_told_others miss, Outcome.hushed_told_collisions collisions]
    rfl
  | some answer =>
    have asking : (s.warning false).asking step o.hushed = (s.asking step o).hushed := by
      change (o.hushed.told _).called _ = (o.told _).hushed.called _
      rw [silent, Outcome.told_nil, Outcome.hushed_told_collisions collisions]
    rw [takenIn, takenIn, asking, settled_hushed]

/-- A step tells of the collisions at its place. -/
theorem takenIn_collisions (reply : Option Answer) :
    (s.takenIn step o reply).collisions = o.collisions ++ s.collisionDiagnostics step o := by
  have kept : (s.collisionDiagnostics step o).filter (fun d => d.kind = .keyCollision) =
      s.collisionDiagnostics step o :=
    List.filter_eq_self.mpr fun d member => by
      simpa using kind_of_mem_collisionDiagnostics member
  cases reply with
  | none => simp [takenIn, Outcome.collisions, kept, missDiagnostic, Outcome.diagnostic]
  | some answer =>
    have dropped : (s.complaints step (s.asking step o) answer).filter
        (fun d => d.kind = .keyCollision) = [] :=
      List.filter_eq_nil_iff.mpr fun d member => by simpa using kind_of_mem_complaints member
    rw [takenIn, Outcome.collisions, settled_diagnostics, List.filter_append, dropped,
      List.append_nil, asking, Outcome.called_diagnostics, Outcome.told_diagnostics,
      List.filter_append, kept]
    rfl

theorem take_hushed :
    (s.warning false).take o.hushed step = Outcome.hushed <$> s.take o step := by
  have same : (s.warning false).reply step = s.reply step := rfl
  simp only [take, same, takenIn_hushed, map_bind, map_pure]

theorem foldlM_take_hushed (steps : List Step) (o : Outcome) :
    steps.foldlM (s.warning false).take o.hushed = Outcome.hushed <$> steps.foldlM s.take o := by
  induction steps generalizing o with
  | nil => rfl
  | cons step steps ih =>
    simp only [List.foldlM_cons, take_hushed, bind_map_left, ih, map_bind]

/-- Steps one after another tell of the collisions at their places. -/
theorem foldlM_take_collisions (steps : List Step) (o : Outcome) (state : σ) :
    ((steps.foldlM s.take o).run state).1.collisions =
      o.collisions ++ steps.flatMap fun step => s.collisionDiagnostics step o := by
  induction steps generalizing o state with
  | nil => exact (List.append_nil _).symm
  | cons step steps ih =>
    obtain ⟨reply, after, taken⟩ : ∃ reply after,
        (s.take o step).run state = (s.takenIn step o reply, after) := ⟨_, _, rfl⟩
    have later : (fun next => s.collisionDiagnostics next (s.takenIn step o reply)) =
        fun next => s.collisionDiagnostics next o :=
      funext fun next => collisionDiagnostics_congr (s.sameVisit_takenIn step o reply).name
    rw [List.foldlM_cons, StateT.run_bind, taken]
    change ((steps.foldlM s.take _).run _).1.collisions = _
    rw [ih, takenIn_collisions, later, List.flatMap_cons, List.append_assoc]

/-- A visit with the switch off ends in the same state, and in the same outcome apart from the
collisions. -/
theorem visit_hushed (node : Node) :
    (s.warning false).visit node = Outcome.hushed <$> s.visit node :=
  s.foldlM_take_hushed node.steps (s.begin node)

theorem visit_collisions (node : Node) (state : σ) :
    (((s.warning true).visit node).run state).1.collisions =
      node.collisions.map (Collision.diagnostic node) := by
  rw [visit, foldlM_take_collisions, Node.collisions, List.map_flatMap]
  change [] ++ _ = _
  rw [List.nil_append]
  refine congrArg node.steps.flatMap (funext fun step => ?_)
  change (Directives.collisions _ _).map _ = _
  rw [Step.collisions, List.map_map]
  rfl

theorem walk_hushed (nodes : List Node) :
    (s.warning false).walk nodes = List.map Outcome.hushed <$> s.walk nodes := by
  unfold walk
  induction nodes with
  | nil => rfl
  | cons node nodes ih =>
    simp only [List.mapM_cons, visit_hushed, bind_map_left, ih, map_bind, map_pure, List.map_cons]

theorem walk_collisions (nodes : List Node) (state : σ) :
    (((s.warning true).walk nodes).run state).1.map Outcome.collisions =
      nodes.map fun node => node.collisions.map (Collision.diagnostic node) := by
  induction nodes generalizing state with
  | nil => rfl
  | cons node nodes ih =>
    simp only [walk, List.mapM_cons, StateT.run_bind]
    exact congrArg₂ List.cons (s.visit_collisions node state) (ih _)

/-- The switch for collisions changes diagnostics only. Of two walks in order that differ in the
switch, the one with the switch off reports the outcomes of the other one without the diagnostics on
collisions, and leaves the visitors in the same state after the same calls: visitors that note their
calls note the same ones. With the switch on, an outcome tells of every collision of its node once,
and of nothing else under this kind. The collisions are the keys that at least two option maps of
one target set, at the node or at one of its members; whether the target has a visitor does not
matter. -/
theorem traverse_hushed (s : Service σ) (schema : Schema) (session : Session σ)
    (sequential : s.parallel = false) :
    ∃ report final report' final' calls,
      ((s.warning true).traverse schema).run.run session = (.ok report, final) ∧
      ((s.warning false).traverse schema).run.run session = (.ok report', final') ∧
      report'.package = report.package ∧
      report'.outcomes = report.outcomes.map Outcome.hushed ∧
      final'.state = final.state ∧
      (∀ noted, ∃ last last',
        ((s.warning true).noting.traverse schema).run.run
          ⟨(session.state, noted), session.log, session.picks⟩ = (.ok report, last) ∧
        last.state = (final.state, noted ++ calls) ∧
        ((s.warning false).noting.traverse schema).run.run
          ⟨(session.state, noted), session.log, session.picks⟩ = (.ok report', last') ∧
        last'.state = (final'.state, noted ++ calls)) ∧
      report.outcomes.map Outcome.collisions =
        schema.nodes.map (fun node => node.collisions.map (Collision.diagnostic node)) ∧
      ∀ node : Node, node.collisions.Nodup ∧ ∀ c, c ∈ node.collisions ↔
        c.step.stop ∈ node.stops ∧
          2 ≤ c.step.stop.node.annotations.countP (Directive.sets c.step.target c.key) := by
  have on : (s.warning true).parallel = false := sequential
  have off : (s.warning false).parallel = false := sequential
  obtain ⟨log, run⟩ := traverse_refines on schema session
  obtain ⟨log', run'⟩ := traverse_refines off schema session
  have walks : (s.warning false).walk schema.nodes =
      List.map Outcome.hushed <$> (s.warning true).walk schema.nodes :=
    (s.warning true).walk_hushed schema.nodes
  rw [walks] at run'
  refine ⟨_, _, _, _, schema.nodes.flatMap s.registry.due, run, run', rfl, rfl, rfl,
    fun noted => ?_,
    s.walk_collisions schema.nodes session.state,
    fun node => ⟨node.nodup_collisions, fun c => Node.mem_collisions⟩⟩
  obtain ⟨last, noting, calls⟩ := traverse_noting on run noted
  obtain ⟨last', noting', calls'⟩ := traverse_noting off run' noted
  exact ⟨last, last', noting, calls, noting', calls'⟩

/-- An interface with a record. The level of `log` is set three times on the interface, and both of
its options twice on one of the two fields named `x`; `lint` has no visitor. -/
def collidingSchema : Schema :=
  let log (entries : List (String × String)) : Directive :=
    logDirective (.options (.ofList entries))
  let lint (rule : String) : Directive := lintDirective (.options (.ofList [("rule", rule)]))
  let field (annotations : List Directive) : RecordField := ⟨⟨"x", none, annotations⟩, "u8"⟩
  let both := log [("path", "out"), ("level", "info")]
  let point : TypeDefinition := ⟨⟨"point", none, []⟩, 0, .record [field [both], field [both, both]]⟩
  { version := "1.0"
    package := "demo"
    interfaces := [⟨⟨"api", none, [both, lint "a", log [("level", "warn")], lint "b", both]⟩, none,
      [point], []⟩]
    worlds := [] }

theorem traverse_hushed_tiring : tiring.parallel = false ∧
    ∃ report final report' final',
      ((tiring.warning true).traverse collidingSchema).run.run ⟨0, [], []⟩ = (.ok report, final) ∧
      ((tiring.warning false).traverse collidingSchema).run.run ⟨0, [], []⟩ =
        (.ok report', final') ∧
      report'.outcomes = report.outcomes.map Outcome.hushed ∧
      report.outcomes.map (fun o => o.collisions.map fun d => (d.target, d.node)) =
        [[("log", "api"), ("log", "api"), ("lint", "api")], [("log", "point"), ("log", "point")]] ∧
      final'.state = final.state := by
  obtain ⟨report, final, report', final', -, run, run', -, outcomes, state, -, collisions, -⟩ :=
    traverse_hushed tiring collidingSchema ⟨0, [], []⟩ rfl
  have told := congrArg (List.map (List.map fun d : Diagnostic => (d.target, d.node))) collisions
  rw [List.map_map] at told
  exact ⟨rfl, report, final, report', final', run, run', outcomes, told.trans (by decide), state⟩

end Service

end SchemaWeaver
