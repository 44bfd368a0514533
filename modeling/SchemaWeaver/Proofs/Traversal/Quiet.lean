import SchemaWeaver.Proofs.Registry.Build
import SchemaWeaver.Proofs.Traversal.Aggregation
import SchemaWeaver.Proofs.Traversal.Functional

/-!
# Runs in which no visitor misbehaves

When all visitors of a registry behave, a visit tells nothing but targets without a visitor and keys
that are set more than once: an outcome that holds only proper contributions takes in every further
one, and stays so. What it holds is then empty exactly when nothing was offered to it. The visitors
shipped for the two backends behave, so this is what a traversal with them reports.
-/

namespace SchemaWeaver

/-- A registry all of whose visitors belong to its family and behave. -/
def Registry.Behaves {σ : Type} (r : Registry σ) : Prop :=
  ∀ target v, r.find? target = some v → v.family = r.family ∧ v.Behaves

/-- A diagnostic that a schema alone can cause. -/
def Diagnostic.Expected (d : Diagnostic) : Prop :=
  d.kind = .unresolvedTarget ∨ d.kind = .keyCollision

namespace Outcome

/-- An outcome that holds proper contributions, keeps the default code and tells nothing about
visitors. -/
structure Quiet (backend : Backend) (o : Outcome) : Prop where
  proper : ∀ slot name c, o.at? slot name = some c → c.Proper (backend.get slot)
  action_eq : o.action = .keep
  expected : ∀ d ∈ o.diagnostics, d.Expected

variable {backend : Backend} {o : Outcome}

theorem quiet_start (family : Backend) (kind : NodeKind) (name : String) :
    (start family kind name).Quiet backend where
  proper slot _ _ h := by cases slot <;> cases h
  action_eq := rfl
  expected _ h := by cases h

theorem Quiet.told (h : o.Quiet backend) {diagnostics : List Diagnostic}
    (expected : ∀ d ∈ diagnostics, d.Expected) : (o.told diagnostics).Quiet backend where
  proper slot name c held := h.proper slot name c (o.at?_told diagnostics slot name ▸ held)
  action_eq := h.action_eq
  expected d member := (List.mem_append.mp member).elim (h.expected d) (expected d)

theorem Quiet.called (h : o.Quiet backend) (invocation : Invocation) :
    (o.called invocation).Quiet backend where
  proper slot name c held := h.proper slot name c (o.at?_called invocation slot name ▸ held)
  action_eq := h.action_eq
  expected := h.expected

/-- A proper contribution can be merged with what a quiet outcome holds. -/
theorem Quiet.merge (h : o.Quiet backend) (isOpen : o.consumed = false) {slot : Slot}
    {c : Contribution} (proper : c.Proper (backend.get slot)) {member? : Option String}
    (named : slot.isMember = true → member?.isSome = true) :
    ∃ o', o.merge slot c member? = .ok o' ∧ o'.Quiet backend := by
  have combines : ∃ merged, combine (o.at? slot (member?.getD "")) c = .ok merged ∧
      merged.Proper (backend.get slot) := by
    cases held : o.at? slot (member?.getD "") with
    | none => exact ⟨c, rfl, proper⟩
    | some existing =>
      obtain ⟨merged, merges, stays⟩ := (h.proper slot _ existing held).merge proper
      exact ⟨merged, by rw [combine, merges], stays⟩
  obtain ⟨merged, combined, stays⟩ := combines
  refine ⟨_, by rw [merge_of_open isOpen c named, combined]; rfl, ?_, ?_, ?_⟩
  · intro slot' name d held
    change (o.put slot (member?.getD "") merged).at? slot' name = some d at held
    rw [at?_put] at held
    split at held
    · rename_i place
      cases held
      exact place.1 ▸ stays
    · exact h.proper slot' name d held
  · change o.action.max c.action = .keep
    rw [h.action_eq, proper.action_eq]
    rfl
  · change ∀ d ∈ (o.put slot (member?.getD "") merged).diagnostics, d.Expected
    rw [put_diagnostics]
    exact h.expected

/-- A quiet outcome is empty exactly when nothing was offered to it. -/
theorem Quiet.isEmpty_iff (h : o.Quiet backend) {offers : List Offer}
    (collects : o.Collects offers) : o.isEmpty = true ↔ offers = [] := by
  simp only [isEmpty, h.action_eq, decide_true, Bool.true_and, List.all_eq_true,
    mem_contributions_iff]
  constructor
  · intro empty
    cases offers with
    | nil => rfl
    | cons offer offers =>
      have value : offer.value ∈ Offer.valuesFor offer.slot offer.name (offer :: offers) := by
        simp [Offer.valuesFor, Offer.GoesTo]
      cases held : o.at? offer.slot offer.name with
      | none =>
        rw [collects.at?_eq, Contribution.mergeAll_eq_none_iff] at held
        rw [held] at value
        cases value
      | some c =>
        have nonempty := (h.proper _ _ c held).isEmpty_eq
        rw [empty c ⟨_, _, held⟩] at nonempty
        cases nonempty
  · rintro rfl c ⟨slot, name, held⟩
    rw [collects.at?_eq] at held
    cases held

end Outcome

/-- Along the stops of a node only members have a position. -/
theorem Node.hasSurplusIndex_of_mem_stops {node : Node} {stop : Stop} (h : stop ∈ node.stops)
    (payload : Payload) : HookCall.hasSurplusIndex ⟨payload, stop.node, stop.index⟩ = false := by
  rcases List.mem_cons.mp h with rfl | member
  · rfl
  · have isMember := isMember_of_mem_members (of_mem_memberStops member).1
    simp only [HookCall.hasSurplusIndex, isMember, Bool.not_true, Bool.and_false]

namespace Registry

variable {σ : Type} {r : Registry σ}

theorem Behaves.functional (behaves : r.Behaves) : r.Functional := by
  intro target v found
  obtain ⟨answer, acts, -⟩ := (behaves target v found).2
  exact ⟨answer, acts⟩

/-- A call that gives a position to members only has a proper answer. -/
theorem Behaves.ask (behaves : r.Behaves) {d : Dispatch} (placed : d.call.hasSurplusIndex = false) :
    ∃ answer, r.ask d = pure answer ∧
      answer.Proper (r.family.get (Slot.ofKind d.call.node.kind)) := by
  unfold Registry.ask
  cases found : r.find? d.target with
  | none => exact ⟨.nothing, rfl, trivial⟩
  | some v =>
    obtain ⟨family, answer, acts, proper⟩ := behaves d.target v found
    exact ⟨answer d.call, acts d.call, family ▸ proper d.call placed⟩

/-- Of the proper answers only nothing is no offer. -/
theorem offer?_eq_none_iff {d : Dispatch} {answer : Answer}
    (proper : answer.Proper (r.family.get (Slot.ofKind d.call.node.kind))) :
    r.offer? d answer = none ↔ answer = .nothing := by
  cases answer with
  | nothing => exact ⟨fun _ => rfl, fun _ => rfl⟩
  | contribution c =>
    have fits : c.shape.Extends (r.family.get (Slot.ofKind d.call.node.kind)) :=
      proper.shape_eq ▸ Shape.Extends.refl _
    have offered : r.offer? d (.contribution c) = some ⟨d, c⟩ := if_pos fits
    rw [offered]
    exact ⟨nofun, nofun⟩
  | «foreign» typeName => exact proper.elim
  | failure message => exact proper.elim

/-- Nothing is offered exactly when every call is answered with nothing. -/
theorem Behaves.offers_eq_nil_iff (behaves : r.Behaves) {calls : List Dispatch}
    (placed : ∀ d ∈ calls, d.call.hasSurplusIndex = false) (state : σ) :
    ((r.offers calls).run state).1 = [] ↔ ∀ d ∈ calls, r.ask d = pure .nothing := by
  induction calls with
  | nil => exact ⟨fun _ => nofun, fun _ => rfl⟩
  | cons d calls ih =>
    obtain ⟨answer, answers, proper⟩ := behaves.ask (placed d (List.mem_cons_self ..))
    have later := ih fun other member => placed other (List.mem_cons_of_mem _ member)
    -- Two computations that only return differ in what they return, since there is a state.
    have same : (pure answer : StateM σ Answer) = pure .nothing ↔ answer = .nothing :=
      ⟨congrArg fun m : StateM σ Answer => (m.run state).1, congrArg pure⟩
    rw [List.forall_mem_cons, answers, same, ← offer?_eq_none_iff proper, ← later, offers_cons,
      List.append_eq_nil_iff, Option.toList_eq_nil_iff, answers]
    rfl

theorem hasSurplusIndex_of_mem_due {node : Node} {d : Dispatch} (h : d ∈ r.due node) :
    d.call.hasSurplusIndex = false := by
  obtain ⟨stop, isStop, due⟩ := List.mem_flatMap.mp h
  obtain ⟨target, -, rfl⟩ := List.mem_map.mp due
  exact Node.hasSurplusIndex_of_mem_stops isStop _

end Registry

namespace Service

variable {σ : Type} {s : Service σ}

theorem expected_of_mem_collisionDiagnostics {step : Step} {o : Outcome} {d : Diagnostic}
    (h : d ∈ s.collisionDiagnostics step o) : d.Expected := by
  obtain ⟨key, rfl⟩ := exists_of_mem_collisionDiagnostics h
  exact .inr rfl

/-- A proper answer is settled without a complaint. -/
theorem settled_quiet {o : Outcome} {step : Step} {answer : Answer}
    (quiet : o.Quiet s.registry.family) (isOpen : o.consumed = false)
    (proper : answer.Proper (s.registry.family.get step.stop.slot)) :
    (s.settled step o answer).Quiet s.registry.family := by
  cases answer with
  | nothing => exact quiet.told (List.forall_mem_nil _)
  | contribution c =>
    obtain ⟨o', merges, quiet'⟩ := quiet.merge isOpen proper step.stop.member?_isSome
    have fits : c.shape.Extends (s.registry.family.get step.stop.slot) :=
      proper.shape_eq ▸ Shape.Extends.refl _
    have merged : s.merged? step o (.contribution c) = some o' := by
      simp only [merged?, fits, if_true, merges, Except.toOption]
    have complaints : s.complaints step o (.contribution c) = [] := by
      simp only [Service.complaints, fits, if_true, merges]
    rw [settled, merged, complaints]
    exact quiet'.told (List.forall_mem_nil _)
  | «foreign» typeName => exact proper.elim
  | failure message => exact proper.elim

theorem takenIn_quiet {o : Outcome} {step : Step} {reply : Option Answer}
    (quiet : o.Quiet s.registry.family) (isOpen : o.consumed = false)
    (proper : ∀ answer, reply = some answer →
      answer.Proper (s.registry.family.get step.stop.slot)) :
    (s.takenIn step o reply).Quiet s.registry.family := by
  have collisions : ∀ d ∈ s.collisionDiagnostics step o, d.Expected :=
    fun d => expected_of_mem_collisionDiagnostics
  cases reply with
  | none =>
    apply quiet.told
    intro d member
    rcases List.mem_append.mp member with collision | miss
    · exact collisions d collision
    · rw [List.mem_singleton.mp miss]
      exact .inl rfl
  | some answer =>
    have asking : (s.asking step o).Quiet s.registry.family := (quiet.told collisions).called _
    exact settled_quiet asking isOpen (proper answer rfl)

/-- The reply to a step is a value, and a proper one. -/
theorem reply_of_behaves (behaves : s.registry.Behaves) {step : Step}
    (placed : (hookCall step).hasSurplusIndex = false) :
    ∃ reply, s.reply step = pure reply ∧ ∀ answer, reply = some answer →
      answer.Proper (s.registry.family.get step.stop.slot) := by
  obtain ⟨answer, answers, proper⟩ := behaves.ask (d := dispatch step) placed
  rw [reply_eq_ask, answers]
  split
  · refine ⟨some answer, map_pure .., ?_⟩
    rintro _ ⟨⟩
    exact proper
  · exact ⟨none, rfl, nofun⟩

/-- A run of steps at which positions are given to members only stays quiet. -/
theorem foldlM_take_quiet (behaves : s.registry.Behaves) {steps : List Step}
    (placed : ∀ step ∈ steps, (hookCall step).hasSurplusIndex = false) {o : Outcome}
    (isOpen : o.consumed = false) (quiet : o.Quiet s.registry.family) :
    ∃ o', steps.foldlM s.take o = pure o' ∧ o'.Quiet s.registry.family := by
  induction steps generalizing o with
  | nil => exact ⟨o, rfl, quiet⟩
  | cons step steps ih =>
    obtain ⟨reply, replies, proper⟩ :=
      reply_of_behaves behaves (placed step (List.mem_cons_self ..))
    have taken : s.take o step = pure (s.takenIn step o reply) := by
      rw [take, replies, pure_bind]
    rw [List.foldlM_cons, taken, pure_bind]
    exact ih (fun later member => placed later (List.mem_cons_of_mem _ member))
      ((s.sameVisit_takenIn step o reply).consumed.trans isOpen)
      (takenIn_quiet quiet isOpen proper)

/-- A visit to a node is a value, and a quiet one. -/
theorem visit_quiet (behaves : s.registry.Behaves) (node : Node) :
    ∃ o, s.visit node = pure o ∧ o.Quiet s.registry.family := by
  refine foldlM_take_quiet behaves ?_ rfl (Outcome.quiet_start ..)
  intro step member
  obtain ⟨stop, isStop, addressed⟩ := List.mem_flatMap.mp member
  obtain ⟨target, -, rfl⟩ := List.mem_map.mp addressed
  exact Node.hasSurplusIndex_of_mem_stops isStop _

/-- The outcome of a node is quiet, and empty exactly when every call that is due there is answered
with nothing. -/
theorem traverse_quiet (behaves : s.registry.Behaves) (schema : Schema) :
    Engine.Ensures (s.traverse schema) fun report =>
      (∀ o ∈ report.outcomes, o.Quiet s.registry.family) ∧
        List.Forall₂ (fun o node => o.isEmpty = true ↔
          ∀ d ∈ s.registry.due node, s.registry.ask d = pure .nothing)
          report.outcomes schema.nodes := by
  intro session
  obtain ⟨report, final, run, -, visits⟩ := traverse_of_functional behaves.functional schema session
  refine ⟨report, final, run, (List.forall₂_and_left _ _).mp ?_⟩
  apply visits.flip.imp
  intro o node visit
  obtain ⟨o', visit', quiet⟩ := visit_quiet behaves node
  obtain ⟨-, collects⟩ := s.visit_collects node session.state
  have same : o = o' :=
    congrArg (fun m : StateM σ Outcome => (m.run session.state).1) (visit.symm.trans visit')
  subst same
  rw [visit] at collects
  exact ⟨quiet, (quiet.isEmpty_iff collects).trans
    (behaves.offers_eq_nil_iff (fun d => Registry.hasSurplusIndex_of_mem_due) session.state)⟩

/-- The visitors shipped for a backend make a registry, answer every call with nothing or with a
proper contribution, and their contributions to one slot can always be merged. Every traversal with
them succeeds, tells only of targets without a visitor and of keys that are set more than once, and
keeps all code generated by default. An outcome is empty exactly when every call that is due at its
node is answered with nothing. -/
theorem traverse_defaults {backend : Backend} (shipped : backend ∈ Backend.all)
    (policy : DuplicatePolicy) (config : Config) (workers? : Option Int) (schema : Schema)
    (session : Session σ) : ∃ (visitors : List (Visitor σ)) (registry : Registry σ),
      Backend.defaultVisitors backend.name = .ok visitors ∧
      Registry.build visitors none policy = .ok (registry, []) ∧
      (∀ v ∈ visitors, ∀ call, call.hasSurplusIndex = false → ∃ answer, v.hook call = pure answer ∧
        answer.Proper (backend.get (Slot.ofKind call.node.kind))) ∧
      (∀ slot (c d : Contribution), c.Proper (backend.get slot) → d.Proper (backend.get slot) →
        ∃ merged, c.merge d = .ok merged ∧ merged.Proper (backend.get slot)) ∧
      ∃ report final,
        ((start registry config workers?).traverse schema).run.run session = (.ok report, final) ∧
        (∀ d ∈ report.diagnostics, d.kind = .unresolvedTarget ∨ d.kind = .keyCollision) ∧
        (∀ o ∈ report.outcomes, o.action = .keep) ∧
        List.Forall₂ (fun o node => o.isEmpty = true ↔
          ∀ d ∈ registry.due node, registry.ask d = pure .nothing)
          report.outcomes schema.nodes := by
  obtain ⟨visitors, defaults, behave, built⟩ := Backend.build_defaultVisitors shipped policy
  refine ⟨visitors, _, defaults, built, ?_, fun slot c d => Contribution.Proper.merge, ?_⟩
  · intro v member call placed
    obtain ⟨family, answer, acts, proper⟩ := behave v member
    exact ⟨answer call, acts call, family ▸ proper call placed⟩
  · -- What is read from the registry is its family and that it holds no other visitors.
    generalize reg : (⟨backend, policy, _, false⟩ : Registry σ) = registry
    have behaves : registry.Behaves := by
      subst reg
      exact fun target v found => behave v (Registry.mem_of_find?_underTargets found)
    obtain ⟨report, final, run, quiet, empty⟩ :=
      traverse_quiet (s := start registry config workers?) behaves schema session
    refine ⟨report, final, run, ?_, fun o member => (quiet o member).action_eq, empty⟩
    intro d told
    obtain ⟨o, member, toldBy⟩ := List.mem_flatMap.mp told
    exact (quiet o member).expected d toldBy

/-- An annotation that asks for a level of tracing. -/
def traceDirective (level : String) : Directive := ⟨"trace", .text level, by decide⟩

/-- An annotation for which no visitor is shipped. -/
def styleDirective : Directive := ⟨"style", .text "", by decide⟩

/-- An interface that is traced, with two functions. One of them asks for a level that does not
exist and for a target without a visitor. -/
def tracedSchema : Schema :=
  let function (name : String) (annotations : List Directive) : Function :=
    ⟨⟨name, none, annotations⟩, [], none⟩
  { version := "1.0"
    package := "demo"
    interfaces := [⟨⟨"api", none, [traceDirective ""]⟩, none, [],
      [function "get" [traceDirective "info"],
        function "put" [traceDirective "loud", styleDirective]]⟩]
    worlds := [] }

theorem traverse_defaults_traced : Backend.python ∈ Backend.all ∧
    ∃ (registry : Registry Unit) (report : Report) (final : Session Unit),
      Registry.build Visitor.pythonDefaults none .refuse = .ok (registry, []) ∧
      ((start registry .defaults none).traverse tracedSchema).run.run ⟨(), [], []⟩ =
        (.ok report, final) ∧
      (∀ o ∈ report.outcomes, o.action = .keep) ∧
      report.outcomes.map Outcome.isEmpty = [false, false, true] := by
  have shipped : Backend.python ∈ Backend.all := by decide
  obtain ⟨visitors, registry, defaults, built, -, -, report, final, run, -, keeps, empty⟩ :=
    traverse_defaults shipped .refuse .defaults none tracedSchema (⟨(), [], []⟩ : Session Unit)
  cases defaults
  refine ⟨shipped, registry, report, final, built, run, keeps, ?_⟩
  cases built
  generalize report.outcomes = outcomes at empty ⊢
  change List.Forall₂ _ outcomes [_, _, _] at empty
  obtain _ | ⟨first, _ | ⟨second, _ | ⟨third, ⟨⟩⟩⟩⟩ := empty
  rw [List.map_cons, List.map_cons, List.map_cons, List.map_nil, third.mpr ?_,
    Bool.eq_false_iff.mpr (first.not.mpr ?_), Bool.eq_false_iff.mpr (second.not.mpr ?_)]
  · intro nothing
    cases congrArg (fun m : StateM Unit Answer => (m.run ()).1) (nothing _ (List.Mem.head _))
  · intro nothing
    cases congrArg (fun m : StateM Unit Answer => (m.run ()).1) (nothing _ (List.Mem.head _))
  · intro d due
    cases due with
    | head => rfl
    | tail _ later => cases later

end Service

end SchemaWeaver
