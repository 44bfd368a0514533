import SchemaWeaver.Proofs.Directives.Regrouping
import SchemaWeaver.Traversal.Engine

/-!
# Nodes with regrouped directives

Hooks that do not look at the directives of the node that they are called for, but may look at all
else that they are given and at their state, learn of directives through payloads only. So a step
depends on what its own target reads, and processing a node on what every target reads and on the
order of the targets. Whether directives of different targets are interleaved does not matter.
-/

namespace SchemaWeaver

namespace Node

/-- The node with other directives on it. Nodes inside it keep theirs. -/
def annotated (annotations : List Directive) : Node → Node
  | type definition => type { definition with annotations := annotations }
  | field definition => field { definition with annotations := annotations }
  | case definition => case { definition with annotations := annotations }
  | function definition => function { definition with annotations := annotations }
  | interface definition => interface { definition with annotations := annotations }
  | world definition => world { definition with annotations := annotations }

variable (annotations : List Directive) (node : Node)

@[simp] theorem kind_annotated : (node.annotated annotations).kind = node.kind := by
  cases node <;> rfl

@[simp] theorem name_annotated : (node.annotated annotations).name = node.name := by
  cases node <;> rfl

@[simp] theorem annotations_annotated :
    (node.annotated annotations).annotations = annotations := by
  cases node <;> rfl

end Node

/-- A visitor that does not look at the directives of the node that it is called for. -/
def Visitor.IgnoresAnnotations {σ : Type} (v : Visitor σ) : Prop :=
  ∀ (call : HookCall) (annotations : List Directive),
    v.hook { call with node := call.node.annotated annotations } = v.hook call

/-- A registry all of whose visitors do not look at the directives of nodes. -/
def Registry.IgnoresAnnotations {σ : Type} (r : Registry σ) : Prop :=
  ∀ target v, r.find? target = some v → v.IgnoresAnnotations

namespace Service

open Directives

variable {σ : Type} {s : Service σ}

section Step

variable (node : Node) (index : Option Int) (target : String) (annotations : List Directive)

theorem noteCollision_annotated :
    (noteCollision ⟨⟨node.annotated annotations, index⟩, target⟩ :
        Outcome → String → Engine σ Outcome) =
      noteCollision ⟨⟨node, index⟩, target⟩ := by
  cases node <;> rfl

theorem invocation_annotated :
    invocation ⟨⟨node.annotated annotations, index⟩, target⟩ =
      invocation ⟨⟨node, index⟩, target⟩ := by
  cases node <;> rfl

theorem settle_annotated (o : Outcome) :
    s.settle ⟨⟨node.annotated annotations, index⟩, target⟩ o =
      s.settle ⟨⟨node, index⟩, target⟩ o := by
  cases node <;> rfl

variable {target annotations}

/-- A step does the same whatever the directives of other targets are. -/
theorem perform_annotated (ignores : s.registry.IgnoresAnnotations)
    (same : toTarget target annotations = toTarget target node.annotations)
    (o : Outcome) :
    s.perform o ⟨⟨node.annotated annotations, index⟩, target⟩ =
      s.perform o ⟨⟨node, index⟩, target⟩ := by
  have notes : s.noteCollisions ⟨⟨node.annotated annotations, index⟩, target⟩ =
      s.noteCollisions ⟨⟨node, index⟩, target⟩ := by
    funext o
    rw [noteCollisions, noteCollisions, noteCollision_annotated, Node.annotations_annotated,
      collisions_congr same]
  have payload : payloadFor (node.annotated annotations).annotations target =
      payloadFor node.annotations target := by
    rw [Node.annotations_annotated, payloadFor_congr same]
  rw [perform, perform, notes]
  refine congrArg _ (funext fun noted => ?_)
  cases found : s.registry.find? target with
  | none => simp only [Registry.dispatch, found]
  | some v =>
    have calls : Engine.call v (hookCall ⟨⟨node.annotated annotations, index⟩, target⟩) =
        Engine.call v (hookCall ⟨⟨node, index⟩, target⟩) := by
      have hook := ignores target v found (hookCall ⟨⟨node, index⟩, target⟩) annotations
      rw [Engine.call, Engine.call, ← hook, hookCall, payload]
      rfl
    simp only [Registry.dispatch, found, invocation_annotated, calls, settle_annotated]

end Step

/-- Processing a node depends on which targets its directives address and on what each of them
reads. -/
theorem processNode_annotated (ignores : s.registry.IgnoresAnnotations) (node : Node)
    (index : Option Int) {annotations : List Directive}
    (order : targets annotations = targets node.annotations)
    (same : ∀ target, toTarget target annotations =
      toTarget target node.annotations) (o : Outcome) :
    s.processNode ⟨node.annotated annotations, index⟩ o = s.processNode ⟨node, index⟩ o := by
  have slot : Stop.slot ⟨node.annotated annotations, index⟩ = Stop.slot ⟨node, index⟩ :=
    congrArg Slot.ofKind (node.kind_annotated annotations)
  have lacks : Stop.lacksIndex ⟨node.annotated annotations, index⟩ =
      Stop.lacksIndex ⟨node, index⟩ := by
    rw [Stop.lacksIndex, Stop.lacksIndex, slot]
  have steps : Stop.steps ⟨node.annotated annotations, index⟩ =
      (targets node.annotations).map
        (Step.mk ⟨node.annotated annotations, index⟩) := by
    rw [Stop.steps, Node.annotations_annotated, order]
  have each : (fun o target => s.perform o ⟨⟨node.annotated annotations, index⟩, target⟩) =
      fun o target => s.perform o ⟨⟨node, index⟩, target⟩ :=
    funext fun o => funext fun target => perform_annotated node index ignores (same target) o
  rw [processNode, processNode, lacks, steps, Node.kind_annotated, Node.name_annotated,
    Stop.steps, List.foldlM_map, List.foldlM_map, each]

/-- Of the directives of a node only those of each target matter, in their order.

When the directives of a node are regrouped by target, and no visitor looks at them but through
payloads, processing the node does the same: it leaves the same outcome, with the same
contributions, action, diagnostics and invocations, or fails in the same way, and leaves the same
state and log. For a single target, inserting and deleting directives of other targets changes
neither its payload nor its collisions.

Reading loses nothing. Over all targets every text is read exactly once, and it stands among the
texts of its target behind those that precede it in the source and before those that follow it.
Every key of an option map is an option of the target of this map. -/
theorem processNode_regrouped (ignores : s.registry.IgnoresAnnotations) (node : Node)
    (index : Option Int) (o : Outcome) (directives : List Directive) :
    s.processNode ⟨node.annotated (regrouped node.annotations), index⟩ o =
        s.processNode ⟨node, index⟩ o ∧
    (∀ target edited, EditsOthers target directives edited →
      payloadFor edited target = payloadFor directives target ∧
      collisions edited target = collisions directives target) ∧
    ((targets directives).flatMap fun target =>
      (payloadFor directives target).values.map fun value => (target, value)).Perm
        (directives.filterMap Directive.told?) ∧
    (∀ before d after value, directives = before ++ d :: after → d.payload = .text value →
      (payloadFor directives d.target).values =
        (payloadFor before d.target).values ++ value :: (payloadFor after d.target).values) ∧
    ∀ d ∈ directives, ∀ entries, d.payload = .options entries → ∀ key ∈ entries.keys,
      key ∈ (payloadFor directives d.target).options.keys := by
  refine ⟨?_, ?_, texts_perm directives, ?_, ?_⟩
  · exact processNode_annotated ignores node index (targets_regrouped _)
      (fun target => toTarget_regrouped target _) o
  · intro target edited edits
    have same := toTarget_of_editsOthers edits
    exact ⟨payloadFor_congr same, collisions_congr same⟩
  · rintro before d after value rfl carried
    exact values_of_split before after carried
  · intro d member entries carried key sets
    exact mem_keys_options directives member carried sets

/-- A service with one visitor, which counts its calls and answers with the number of the call, the
name and the position of the node, and the texts. -/
def ticketing : Service Nat :=
  let answer (call : HookCall) (count : Nat) : Answer :=
    .contribution (.ofLists .rustField [("attributes",
      [toString count, call.node.name, toString call.index] ++ call.payload.values)])
  let visitor : Visitor Nat :=
    { className := "TicketVisitor", target := "ticket", family := .rust, reentrant := false,
      hook := fun call => modifyGet fun count => (answer call count, count + 1) }
  .start ⟨.rust, .refuse, .ofList [("ticket", visitor)], false⟩ .defaults none

/-- A directive that asks for a ticket. -/
def ticketDirective (text : String) : Directive := ⟨"ticket", .text text, by decide⟩

/-- A directive without a visitor. -/
def widthDirective (width : String) : Directive :=
  ⟨"ruler", .options (.ofList [("width", width)]), by decide⟩

/-- A field with interleaved directives of two targets. -/
def interleavedField : Node :=
  .field ⟨⟨"x", none, [ticketDirective "a", widthDirective "1", ticketDirective "b",
    widthDirective "2"]⟩, "u8"⟩

theorem processNode_regrouped_ticketing :
    let o := Outcome.start .rust .record "point"
    let apart := [ticketDirective "a", ticketDirective "b", widthDirective "1", widthDirective "2"]
    (ticketing.registry.IgnoresAnnotations ∧
      regrouped interleavedField.annotations = apart) ∧
      ticketing.processNode ⟨interleavedField.annotated apart, some 2⟩ o =
        ticketing.processNode ⟨interleavedField, some 2⟩ o ∧
      EditsOthers "ticket" interleavedField.annotations
        [ticketDirective "a", ticketDirective "b"] ∧
      payloadFor [ticketDirective "a", ticketDirective "b"] "ticket" =
        payloadFor interleavedField.annotations "ticket" := by
  intro o apart
  have ignores : ticketing.registry.IgnoresAnnotations := by
    intro target v found call annotations
    change List.lookup target [("ticket", _)] = some v at found
    rw [lookup_cons_eq_ite] at found
    split at found
    · cases found
      simp only [Node.name_annotated]
    · cases found
  have regroups : regrouped interleavedField.annotations = apart := by decide
  have first : InsertsOther "ticket"
      [ticketDirective "a", ticketDirective "b", widthDirective "2"]
      [ticketDirective "a", widthDirective "1", ticketDirective "b", widthDirective "2"] :=
    .insert [ticketDirective "a"] [ticketDirective "b", widthDirective "2"] (by decide)
  have second : InsertsOther "ticket" [ticketDirective "a", ticketDirective "b"]
      [ticketDirective "a", ticketDirective "b", widthDirective "2"] :=
    .insert [ticketDirective "a", ticketDirective "b"] [] (by decide)
  have edits : EditsOthers "ticket" interleavedField.annotations
      [ticketDirective "a", ticketDirective "b"] :=
    .trans _ _ _ (.symm _ _ (.rel _ _ first)) (.symm _ _ (.rel _ _ second))
  obtain ⟨same, others, -⟩ :=
    processNode_regrouped ignores interleavedField (some 2) o interleavedField.annotations
  rw [regroups] at same
  exact ⟨⟨ignores, regroups⟩, same, edits, (others "ticket" _ edits).1⟩

end Service

end SchemaWeaver
