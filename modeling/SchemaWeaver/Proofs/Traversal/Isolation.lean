import Mathlib.Logic.Function.Basic
import SchemaWeaver.Proofs.Schema.Annotations
import SchemaWeaver.Proofs.Traversal.Sequential

/-!
# Failures stay with their target

Two walks are compared: one over a schema, and one over the same schema without the directives of
a target from which the first walk merges nothing. The steps for this target are silent: they change
the state of its own visitor, and add diagnostics and invocations of this target. All other steps
are taken in both walks, on outcomes that differ in these entries only and on states that differ
in one component only, and they do the same in both.

The state of the visitors is a family with one component for every target, so that visitors share
nothing; what a hook does may depend on the directives inside a node through the payload only.
-/

namespace SchemaWeaver

/-- The outcome without the diagnostics and the invocations of a target. -/
def Outcome.without (target : String) (o : Outcome) : Outcome :=
  { o with
    diagnostics := o.diagnostics.filter fun d => d.target ≠ target
    invocations := o.invocations.filter fun i => i.target ≠ target }

/-- The step at the node without the directives of a target. -/
def Step.without (target : String) (step : Step) : Step :=
  ⟨⟨step.stop.node.without target, step.stop.index⟩, step.target⟩

/-- A visitor reads and changes its own component of the state only, and does not look at the
directives inside the node. -/
def Visitor.Secluded {τ : String → Type} (key : String)
    (v : Visitor ((target : String) → τ target)) : Prop :=
  ∃ own : HookCall → StateM (τ key) Answer, ∀ call state,
    (v.hook call).run state =
      (((own { call with node := call.node.bare }).run (state key)).1,
        Function.update state key ((own { call with node := call.node.bare }).run (state key)).2)

/-- The visitors of a registry share no state: each keeps to the component of its target. -/
def Registry.Independent {τ : String → Type} (r : Registry ((target : String) → τ target)) : Prop :=
  ∀ target v, r.find? target = some v → v.Secluded target

/-- Two states of the visitors that differ in the component of a target only. -/
def AgreeOff {τ : String → Type} (target : String) (state state' : (target : String) → τ target) :
    Prop :=
  ∀ other, other ≠ target → state' other = state other

theorem Visitor.Secluded.run_elsewhere {τ : String → Type} {key component : String}
    {v : Visitor ((target : String) → τ target)} (secluded : v.Secluded key)
    (differs : component ≠ key) (call : HookCall) (state : (target : String) → τ target) :
    ((v.hook call).run state).2 component = state component := by
  obtain ⟨own, acts⟩ := secluded
  rw [acts]
  exact Function.update_of_ne differs _ _

/-- A visitor of another target does not notice that the directives of a target are gone from the
node, nor that the target's component of the state is another one. -/
theorem Visitor.Secluded.hook_without {τ : String → Type} {key target : String}
    {v : Visitor ((target : String) → τ target)} (secluded : v.Secluded key) (other : key ≠ target)
    {state state' : (target : String) → τ target} (agree : AgreeOff target state state')
    (call : HookCall) :
    ((v.hook { call with node := call.node.without target }).run state').1 =
        ((v.hook call).run state).1 ∧
      AgreeOff target ((v.hook call).run state).2
        ((v.hook { call with node := call.node.without target }).run state').2 := by
  have node : (call.node.without target).bare = call.node.bare := Node.bare_reannotate ..
  obtain ⟨own, acts⟩ := id secluded
  refine ⟨by rw [acts, acts, node, agree key other], fun component differs => ?_⟩
  by_cases h : component = key
  · subst h
    rw [acts, acts, node, agree component other]
    exact (Function.update_self ..).trans (Function.update_self ..).symm
  · rw [secluded.run_elsewhere h, secluded.run_elsewhere h]
    exact agree component differs

namespace Outcome

variable (target : String)

theorem without_told_of_ne {o : Outcome} {ds : List Diagnostic}
    (h : ∀ d ∈ ds, d.target ≠ target) :
    (o.told ds).without target = (o.without target).told ds := by
  have kept : ds.filter (fun d => d.target ≠ target) = ds :=
    List.filter_eq_self.mpr fun d member => by simpa using h d member
  simp only [without, told, List.filter_append, kept]

theorem without_called_of_ne {o : Outcome} {i : Invocation} (h : i.target ≠ target) :
    (o.called i).without target = (o.without target).called i := by
  simp [without, called, h]

theorem without_told_of_eq {o : Outcome} {ds : List Diagnostic}
    (h : ∀ d ∈ ds, d.target = target) : (o.told ds).without target = o.without target := by
  have dropped : ds.filter (fun d => d.target ≠ target) = [] :=
    List.filter_eq_nil_iff.mpr fun d member => by simpa using h d member
  simp only [without, told, List.filter_append, dropped, List.append_nil]

theorem without_called_of_eq {o : Outcome} {i : Invocation} (h : i.target = target) :
    (o.called i).without target = o.without target := by
  simp [without, called, h]

end Outcome

namespace Step

variable {target : String} (step : Step)

@[simp] theorem target_without : (step.without target).target = step.target := rfl

@[simp] theorem kind_without : (step.without target).stop.node.kind = step.stop.node.kind :=
  Node.kind_reannotate ..

@[simp] theorem name_without : (step.without target).stop.node.name = step.stop.node.name :=
  Node.name_reannotate ..

@[simp] theorem annotations_without :
    (step.without target).stop.node.annotations =
      Directives.without target step.stop.node.annotations :=
  Node.annotations_reannotate ..

/-- What is left of steps without those of a target. -/
def others (target : String) (steps : List Step) : List Step :=
  (steps.filter fun step => step.target ≠ target).map (Step.without target)

theorem others_cons_of_eq {steps : List Step} (own : step.target = target) :
    others target (step :: steps) = others target steps := by
  rw [others, List.filter_cons_of_neg (by simpa using own), others]

theorem others_cons_of_ne {steps : List Step} (other : step.target ≠ target) :
    others target (step :: steps) = step.without target :: others target steps := by
  rw [others, List.filter_cons_of_pos (by simpa using other), List.map_cons, others]

/-- Without a target a stop has the steps of the other targets. -/
theorem steps_stop_without (target : String) (stop : Stop) :
    Stop.steps ⟨stop.node.without target, stop.index⟩ = others target stop.steps := by
  have targets : Directives.targets (stop.node.without target).annotations =
      (Directives.targets stop.node.annotations).filter fun other => other ≠ target := by
    rw [Node.without, Node.annotations_reannotate, Directives.targets_without]
  rw [Stop.steps, targets, others, Stop.steps, List.filter_map, List.map_map]
  rfl

theorem steps_without (target : String) (node : Node) :
    (node.without target).steps = others target node.steps := by
  rw [Node.steps, Node.without, Node.stops_reannotate, List.flatMap_map, others, Node.steps,
    List.filter_flatMap, List.map_flatMap]
  exact congrArg node.stops.flatMap (funext (steps_stop_without target))

theorem invocation_without :
    Service.invocation (step.without target) = Service.invocation step := by
  simp [Service.invocation]
  rfl

end Step

namespace Service

section Outcomes

variable {σ : Type} {target : String} (s : Service σ) (step : Step) (o : Outcome)

/-- An answer that is not merged: it is no contribution, or one of another shape than the slot's, or
one that disagrees with what the slot holds. -/
def Rejects (s : Service σ) (step : Step) (o : Outcome) : Answer → Prop
  | .contribution c =>
    ¬c.shape.Extends (s.registry.family.get step.stop.slot) ∨
      ∃ reason, o.merge step.stop.slot c step.stop.member? = .error (.mismatch reason)
  | .nothing | .foreign _ | .failure _ => True

theorem merged?_eq_none {answer : Answer} (rejected : s.Rejects step o answer) :
    s.merged? step (s.asking step o) answer = none := by
  cases answer with
  | contribution c =>
    rw [merged?]
    rcases rejected with shape | ⟨reason, refused⟩
    · rw [if_neg shape]
    · have asking : s.asking step o = { o with
          diagnostics := o.diagnostics ++ s.collisionDiagnostics step o
          invocations := o.invocations ++ [invocation step] } := rfl
      rw [asking, Outcome.merge_of_entries, refused]
      exact ite_self _
  | nothing => rfl
  | «foreign» typeName => rfl
  | failure message => rfl

/-- A step whose answer is not merged changes nothing but the entries of its target. -/
theorem takenIn_of_rejected {reply : Option Answer} (own : step.target = target)
    (rejected : ∀ answer, reply = some answer → s.Rejects step o answer) :
    (s.takenIn step o reply).without target = o.without target := by
  subst own
  cases reply with
  | none =>
    refine Outcome.without_told_of_eq _ fun d member => ?_
    rcases List.mem_append.mp member with collision | miss
    · exact target_of_mem_collisionDiagnostics collision
    · exact List.mem_singleton.mp miss ▸ rfl
  | some answer =>
    have notMerged := s.merged?_eq_none step o (rejected answer rfl)
    rw [takenIn, settled, notMerged, Option.getD_none,
      Outcome.without_told_of_eq _ fun d => target_of_mem_complaints, asking,
      Outcome.without_called_of_eq step.target rfl,
      Outcome.without_told_of_eq _ fun d => target_of_mem_collisionDiagnostics]

variable {s step o}

theorem collisionDiagnostics_without (other : step.target ≠ target) :
    s.collisionDiagnostics (step.without target) (o.without target) =
      s.collisionDiagnostics step o := by
  have message (key : String) :
      collisionMessage (step.without target) key = collisionMessage step key := by
    unfold collisionMessage
    rw [Step.target_without, Step.kind_without, Step.name_without]
  simp only [collisionDiagnostics, Step.annotations_without, Step.target_without,
    Directives.collisions_without other, message]
  rfl

theorem merged?_without (answer : Answer) :
    s.merged? (step.without target) (o.without target) answer =
      (s.merged? step o answer).map (Outcome.without target) := by
  rw [merged?_congr step.kind_without step.name_without]
  exact s.merged?_mapEntries step o (List.filter fun d => d.target ≠ target)
    (List.filter fun i => i.target ≠ target) answer

theorem complaints_without (answer : Answer) :
    s.complaints (step.without target) (o.without target) answer = s.complaints step o answer := by
  rw [complaints_congr step.target_without step.kind_without step.name_without]
  exact s.complaints_mapEntries step o (List.filter fun d => d.target ≠ target)
    (List.filter fun i => i.target ≠ target) answer

/-- A step of another target takes in the same reply in both walks. -/
theorem takenIn_without (other : step.target ≠ target) (reply : Option Answer) :
    s.takenIn (step.without target) (o.without target) reply =
      (s.takenIn step o reply).without target := by
  cases reply with
  | none =>
    rw [takenIn, takenIn, collisionDiagnostics_without other, Outcome.without_told_of_ne]
    · rfl
    · intro d member
      rcases List.mem_append.mp member with collision | miss
      · exact target_of_mem_collisionDiagnostics collision ▸ other
      · exact List.mem_singleton.mp miss ▸ other
  | some answer =>
    have asking : s.asking (step.without target) (o.without target) =
        (s.asking step o).without target := by
      rw [Service.asking, Service.asking, collisionDiagnostics_without other,
        Step.invocation_without, Outcome.without_called_of_ne _ other,
        Outcome.without_told_of_ne _ fun d member =>
          target_of_mem_collisionDiagnostics member ▸ other]
    rw [takenIn, takenIn, asking, settled, settled, merged?_without, complaints_without,
      Outcome.without_told_of_ne _ fun d member => target_of_mem_complaints member ▸ other]
    cases s.merged? step (s.asking step o) answer <;> rfl

end Outcomes

section Walks

variable {τ : String → Type} {s : Service ((target : String) → τ target)} {target : String}
  {state state' : (target : String) → τ target}

/-- The hook of another target gets the same payload and index, and a node that is the same up to
the directives inside it. -/
theorem hookCall_without {step : Step} (other : step.target ≠ target) :
    hookCall (step.without target) =
      { hookCall step with node := (hookCall step).node.without target } := by
  rw [hookCall, Step.annotations_without, Step.target_without, Directives.payloadFor_without other]
  rfl

/-- A step of another target gets the same reply in both walks. -/
theorem reply_without (independent : s.registry.Independent) (agree : AgreeOff target state state')
    {step : Step} (other : step.target ≠ target) :
    ((s.reply (step.without target)).run state').1 = ((s.reply step).run state).1 ∧
      AgreeOff target ((s.reply step).run state).2
        ((s.reply (step.without target)).run state').2 := by
  unfold reply
  rw [Step.target_without, hookCall_without other]
  cases found : s.registry.find? step.target with
  | none => exact ⟨rfl, agree⟩
  | some v =>
    obtain ⟨answer, after⟩ := (independent _ v found).hook_without other agree (hookCall step)
    exact ⟨congrArg some answer, after⟩

/-- A step of the target changes the component of the target only. -/
theorem reply_agreeOff (independent : s.registry.Independent) (agree : AgreeOff target state state')
    {step : Step} (own : step.target = target) :
    AgreeOff target ((s.reply step).run state).2 state' := by
  unfold reply
  cases found : s.registry.find? step.target with
  | none => exact agree
  | some v =>
    intro other differs
    have kept : ((v.hook (hookCall step)).run state).2 other = state other :=
      (independent _ v found).run_elsewhere (own ▸ differs) _ _
    exact (agree other differs).trans kept.symm

/-- From an outcome and a state, steps one after another merge no answer of the target. -/
def MergesNothing (s : Service ((target : String) → τ target)) (target : String) (steps : List Step)
    (o : Outcome) (state : (target : String) → τ target) : Prop :=
  ∀ done step todo, steps = done ++ step :: todo → step.target = target →
    ∀ v, s.registry.find? target = some v →
      s.Rejects step ((done.foldlM s.take o).run state).1
        ((v.hook (hookCall step)).run ((done.foldlM s.take o).run state).2).1

theorem MergesNothing.tail {step : Step} {steps : List Step} {o : Outcome}
    (h : s.MergesNothing target (step :: steps) o state) :
    s.MergesNothing target steps ((s.take o step).run state).1 ((s.take o step).run state).2 := by
  intro done next todo split
  exact h (step :: done) next todo (congrArg (List.cons step) split)

/-- Steps of the target are left out without a trace, and the others do the same. -/
theorem foldlM_take_without (independent : s.registry.Independent) (steps : List Step) (o : Outcome)
    (agree : AgreeOff target state state') (nothing : s.MergesNothing target steps o state) :
    (((Step.others target steps).foldlM s.take (o.without target)).run state').1 =
        ((steps.foldlM s.take o).run state).1.without target ∧
      AgreeOff target ((steps.foldlM s.take o).run state).2
        (((Step.others target steps).foldlM s.take (o.without target)).run state').2 := by
  induction steps generalizing o state state' with
  | nil => exact ⟨rfl, agree⟩
  | cons step steps ih =>
    have run : ((step :: steps).foldlM s.take o).run state =
        (steps.foldlM s.take ((s.take o step).run state).1).run ((s.take o step).run state).2 := rfl
    rw [run]
    by_cases own : step.target = target
    · have silent : ((s.take o step).run state).1.without target = o.without target := by
        refine s.takenIn_of_rejected step o own fun answer replied => ?_
        have reject := nothing [] step steps rfl own
        cases found : s.registry.find? step.target with
        | none => rw [found] at replied; cases replied
        | some v =>
          rw [found] at replied
          cases replied
          exact reject v (own ▸ found)
      have after : AgreeOff target ((s.take o step).run state).2 state' :=
        reply_agreeOff independent agree own
      rw [step.others_cons_of_eq own, ← silent]
      exact ih _ after nothing.tail
    · obtain ⟨replied, after⟩ := reply_without independent agree own
      have same : ((s.take (o.without target) (step.without target)).run state').1 =
          ((s.take o step).run state).1.without target := by
        change s.takenIn _ _ ((s.reply _).run state').1 = _
        rw [replied, takenIn_without own]
        rfl
      rw [step.others_cons_of_ne own, List.foldlM_cons, StateT.run_bind]
      change ((List.foldlM s.take ((s.take _ _).run state').1 _).run _).1 = _ ∧
        AgreeOff target _ ((List.foldlM s.take ((s.take _ _).run state').1 _).run _).2
      rw [same]
      exact ih _ after nothing.tail

theorem begin_without (s : Service ((target : String) → τ target)) (target : String) (node : Node) :
    s.begin (node.without target) = (s.begin node).without target := by
  simp only [begin, Node.without, Node.kind_reannotate, Node.name_reannotate]
  rfl

/-- A walk without a target does what the whole walk does, as far as other targets are concerned. -/
theorem walk_without (independent : s.registry.Independent) (nodes : List Node)
    (agree : AgreeOff target state state')
    (nothing : ∀ before node after, nodes = before ++ node :: after →
      s.MergesNothing target node.steps (s.begin node) ((s.walk before).run state).2) :
    ((s.walk (nodes.map (Node.without target))).run state').1 =
        ((s.walk nodes).run state).1.map (Outcome.without target) ∧
      AgreeOff target ((s.walk nodes).run state).2
        ((s.walk (nodes.map (Node.without target))).run state').2 := by
  induction nodes generalizing state state' with
  | nil => exact ⟨rfl, agree⟩
  | cons node nodes ih =>
    obtain ⟨head, between⟩ : ((s.visit (node.without target)).run state').1 =
        ((s.visit node).run state).1.without target ∧
        AgreeOff target ((s.visit node).run state).2
          ((s.visit (node.without target)).run state').2 := by
      rw [visit, visit, Step.steps_without, begin_without]
      exact foldlM_take_without independent node.steps _ agree (nothing [] node nodes rfl)
    have walkFrom (node : Node) (nodes : List Node) (state : (target : String) → τ target) :
        (s.walk (node :: nodes)).run state =
          (((s.visit node).run state).1 :: ((s.walk nodes).run ((s.visit node).run state).2).1,
            ((s.walk nodes).run ((s.visit node).run state).2).2) := by
      rw [walk, List.mapM_cons]
      rfl
    obtain ⟨rest, after⟩ := ih between fun before next after split => by
      have := nothing (node :: before) next after (congrArg (List.cons node) split)
      rwa [walkFrom] at this
    rw [List.map_cons, walkFrom, walkFrom, head, rest]
    exact ⟨rfl, after⟩

end Walks

/-- A traversal in order comes to a step: the sites before are visited, and at the site of the step
the steps before are taken. The step is taken on an outcome and in a session. -/
def ComesTo {σ : Type} (s : Service σ) (schema : Schema) (start : Session σ) (step : Step)
    (o : Outcome) (now : Session σ) : Prop :=
  ∃ before site after done todo outcomes middle,
    schema.sites = before ++ site :: after ∧
    site.steps = done ++ step :: todo ∧
    (before.mapM s.visitSite).run.run start = (.ok outcomes, middle) ∧
    (done.foldlM s.perform (s.begin site.head)).run.run middle = (.ok o, now)

/-- A traversal merges no contribution from a target: either the target has no visitor, or none of
the answers that its visitor gives is merged. -/
def MergesNothingFrom {σ : Type} (s : Service σ) (schema : Schema) (start : Session σ)
    (target : String) : Prop :=
  ∀ step o now, s.ComesTo schema start step o now → step.target = target →
    ∀ v, s.registry.find? target = some v →
      s.Rejects step o ((v.hook (hookCall step)).run now.state).1

theorem MergesNothingFrom.mergesNothing {τ : String → Type}
    {s : Service ((target : String) → τ target)} {schema : Schema}
    {start : Session ((target : String) → τ target)} {target : String}
    (h : s.MergesNothingFrom schema start target) {before after : List Node} {node : Node}
    (split : schema.nodes = before ++ node :: after) :
    s.MergesNothing target node.steps (s.begin node) ((s.walk before).run start.state).2 := by
  intro done step todo steps own
  obtain ⟨_, visited⟩ := s.visitSites_refines before start
  obtain ⟨_, taken⟩ := s.foldlM_perform_refines (o := s.begin node) done rfl _
  refine h step _ _ ⟨before.map Node.site, node.site, after.map Node.site, done, todo, _, _, ?_,
    steps, visited, taken⟩ own
  rw [schema.sites_eq, split, List.map_append, List.map_cons]

/-- When visitors share no state and a traversal in order merges nothing from a target, the
traversal of the schema without the directives of this target gives the same outcomes, except that
the diagnostics and invocations of the target are missing, and leaves all other visitors in the same
state. -/
theorem traverse_without {τ : String → Type} (s : Service ((target : String) → τ target))
    (schema : Schema) (start : Session ((target : String) → τ target)) (target : String)
    (sequential : s.parallel = false) (independent : s.registry.Independent)
    (nothing : s.MergesNothingFrom schema start target) :
    ∃ report final report' final',
      (s.traverse schema).run.run start = (.ok report, final) ∧
      (s.traverse (schema.without target)).run.run start = (.ok report', final') ∧
      report'.package = report.package ∧
      report'.outcomes = report.outcomes.map (Outcome.without target) ∧
      ∀ other, other ≠ target → final'.state other = final.state other := by
  obtain ⟨log, run⟩ := traverse_refines sequential schema start
  obtain ⟨log', run'⟩ := traverse_refines sequential (schema.without target) start
  have same : AgreeOff target start.state start.state := fun _ _ => rfl
  obtain ⟨outcomes, agree⟩ := walk_without independent schema.nodes same
    fun before node after split => nothing.mergesNothing split
  have nodes : (schema.without target).nodes = schema.nodes.map (Node.without target) :=
    schema.nodes_reannotate _
  rw [nodes] at run'
  exact ⟨_, _, _, _, run, run', rfl, outcomes, agree⟩

/-- A visitor that counts its calls and gives the same answer to all of them. -/
def counting (target : String) (answer : Answer) : Visitor (String → Nat) where
  className := "CountingVisitor"
  target := target
  family := .rust
  reentrant := false
  hook _ := modifyGet fun counts => (answer, Function.update counts target (counts target + 1))

/-- A service with two counting visitors, one of which always fails. -/
def audited : Service (String → Nat) :=
  let label : Answer := .contribution (.empty .rustModule)
  .start ⟨.rust, .refuse, .ofList [("audit", counting "audit" (.failure "unavailable")),
    ("label", counting "label" label)], false⟩ .defaults none

/-- Two interfaces, one of which addresses both visitors. -/
def auditedSchema : Schema :=
  let audit : Directive := ⟨"audit", .text "full", by decide⟩
  let label : Directive := ⟨"label", .text "", by decide⟩
  { version := "1.0"
    package := "demo"
    interfaces := [⟨⟨"first", none, [audit, label, audit]⟩, none, [], []⟩,
      ⟨⟨"second", none, [label]⟩, none, [], []⟩]
    worlds := [] }

theorem traverse_without_audit :
    ∃ report final report' final',
      (audited.traverse auditedSchema).run.run ⟨fun _ => 0, [], []⟩ = (.ok report, final) ∧
      (audited.traverse (auditedSchema.without "audit")).run.run ⟨fun _ => 0, [], []⟩ =
        (.ok report', final') ∧
      auditedSchema.without "audit" ≠ auditedSchema ∧
      report'.outcomes = report.outcomes.map (Outcome.without "audit") ∧
      final'.state "label" = final.state "label" := by
  have visitors (target : String) (v : Visitor (String → Nat))
      (found : audited.registry.find? target = some v) :
      (target = "audit" ∧ v = counting "audit" (.failure "unavailable")) ∨
        (target = "label" ∧ v = counting "label" (.contribution (.empty .rustModule))) := by
    change List.lookup target [("audit", counting "audit" _), ("label", counting "label" _)] =
      some v at found
    rw [lookup_cons_eq_ite, lookup_cons_eq_ite] at found
    split at found
    · exact .inl ⟨‹_›, (Option.some.inj found).symm⟩
    split at found
    · exact .inr ⟨‹_›, (Option.some.inj found).symm⟩
    · cases found
  have independent :
      (audited : Service ((target : String) → (fun _ => Nat) target)).registry.Independent := by
    intro target v found
    rcases visitors target v found with ⟨rfl, rfl⟩ | ⟨rfl, rfl⟩
    · exact ⟨fun _ => modifyGet fun count => (.failure "unavailable", count + 1), fun _ _ => rfl⟩
    · exact ⟨fun _ => modifyGet fun count => (.contribution (.empty .rustModule), count + 1),
        fun _ _ => rfl⟩
  have nothing : audited.MergesNothingFrom auditedSchema ⟨fun _ => 0, [], []⟩ "audit" := by
    intro step o now _ _ v found
    rcases visitors "audit" v found with ⟨_, rfl⟩ | ⟨label, _⟩
    · trivial
    · exact absurd label (by decide)
  obtain ⟨report, final, report', final', run, run', -, outcomes, agree⟩ :=
    traverse_without audited auditedSchema ⟨fun _ => 0, [], []⟩ "audit" (by decide) independent
      nothing
  exact ⟨report, final, report', final', run, run', by decide, outcomes,
    agree "label" (by decide)⟩

end Service

end SchemaWeaver
