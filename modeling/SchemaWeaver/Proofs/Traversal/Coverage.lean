import SchemaWeaver.Proofs.Traversal.Invariant
import SchemaWeaver.Proofs.Traversal.Nodes
import SchemaWeaver.Proofs.Traversal.Step

/-!
# A report has one outcome for every node

The outcomes of a report belong to the nodes of the schema one by one, in the order of the listing
`Schema.nodes`. Hooks can change neither their number nor their order nor the node that an outcome
names, and a scheduler cannot either: that an outcome is the outcome of its visit is an invariant
of the walk. A lookup by kind and name therefore finds the outcome at the position of the first node
with that kind and name.
-/

namespace SchemaWeaver

/-- What a lookup compares. -/
def Outcome.label (o : Outcome) : NodeKind × String := (o.kind, o.name)

/-- What a lookup compares with. -/
def Node.label (node : Node) : NodeKind × String := (node.kind, node.name)

theorem Service.sameVisit_invariant {σ : Type} (s : Service σ) :
    s.Invariant fun site job => (s.begin site.head).SameVisit job.outcome where
  start _ := .refl _
  keeps _ o step _ same :=
    ((s.perform_refines same.consumed step).ensures fun _ =>
      s.sameVisit_takenIn step o _).mono fun _ next => same.trans next

/-- The labels of the outcomes are those of the nodes, in every run. -/
theorem Service.traverse_labels {σ : Type} (s : Service σ) (schema : Schema) :
    Engine.Ensures (s.traverse schema) fun report =>
      report.outcomes.map Outcome.label = schema.nodes.map Node.label := by
  refine (s.sameVisit_invariant.traverse_ensures schema).mono ?_
  intro report told
  obtain ⟨-, reported⟩ := told
  rw [schema.sites_eq, Service.Reported, List.forall₂_map_left_iff] at reported
  rw [← List.forall₂_eq_eq_eq, List.forall₂_map_left_iff, List.forall₂_map_right_iff]
  refine reported.flip.imp ?_
  intro o node same
  exact Prod.ext same.kind same.name

namespace Report

variable {r : Report} {nodes : List Node}

theorem find?_eq_of_labels (h : r.outcomes.map Outcome.label = nodes.map Node.label)
    (kind : NodeKind) (name : String) :
    r.find? kind name =
      (nodes.findIdx? fun node => node.kind = kind && node.name = name).bind (r.outcomes[·]?) := by
  have positions : (r.outcomes.findIdx? fun o => o.kind = kind && o.name = name) =
      nodes.findIdx? fun node => node.kind = kind && node.name = name := by
    have same := congrArg (List.findIdx? fun label : NodeKind × String =>
      label.1 = kind && label.2 = name) h
    rwa [List.findIdx?_map, List.findIdx?_map] at same
  rw [Report.find?, List.find?_eq_bind_findIdx?_getElem?, positions]

theorem find?_eq_none_of_labels (h : r.outcomes.map Outcome.label = nodes.map Node.label)
    (kind : NodeKind) (name : String) :
    r.find? kind name = none ↔ ∀ node ∈ nodes, ¬(node.kind = kind ∧ node.name = name) := by
  have labels : (∀ o ∈ r.outcomes, o.label ≠ (kind, name)) ↔
      ∀ node ∈ nodes, node.label ≠ (kind, name) := by
    have same := congrArg (fun labels => ∀ label ∈ labels, label ≠ (kind, name)) h
    simpa only [List.forall_mem_map, eq_iff_iff] using same
  simpa [Report.find?, Outcome.label, Node.label] using labels

end Report

/-- Fields and cases have no outcome of their own. -/
theorem Schema.kind_of_mem_nodes {schema : Schema} :
    ∀ node ∈ schema.nodes, node.kind ≠ .field ∧ node.kind ≠ .variantCase := by
  have types (t : TypeDefinition) :
      ∀ node ∈ t.nodes, node.kind ≠ .field ∧ node.kind ≠ .variantCase := by
    obtain ⟨header, typeId, body⟩ := t
    cases body <;> simp [TypeDefinition.nodes, Node.kind, TypeBody.kind]
  have declared (ts : List TypeDefinition) (fs : List Function) :
      ∀ node ∈ declaredNodes ts fs, node.kind ≠ .field ∧ node.kind ≠ .variantCase := by
    intro node member
    rcases List.mem_append.mp member with ofType | ofFunction
    · obtain ⟨t, -, inType⟩ := List.mem_flatMap.mp ofType
      exact types t node inType
    · obtain ⟨f, -, rfl⟩ := List.mem_map.mp ofFunction
      simp [Node.kind]
  have interfaces (i : Interface) :
      ∀ node ∈ i.nodes, node.kind ≠ .field ∧ node.kind ≠ .variantCase :=
    List.forall_mem_cons.mpr ⟨by simp [Node.kind], declared _ _⟩
  have worlds (w : World) :
      ∀ node ∈ w.nodes, node.kind ≠ .field ∧ node.kind ≠ .variantCase := by
    intro node member
    rcases List.mem_append.mp member with front | exported
    · rcases List.mem_append.mp front with own | imported
      · rcases List.mem_cons.mp own with rfl | ofWorld
        · simp [Node.kind]
        · exact declared _ _ node ofWorld
      · obtain ⟨i, -, inInterface⟩ := List.mem_flatMap.mp imported
        exact interfaces i node inInterface
    · obtain ⟨i, -, inInterface⟩ := List.mem_flatMap.mp exported
      exact interfaces i node inInterface
  intro node member
  rcases List.mem_append.mp member with inInterfaces | inWorlds
  · obtain ⟨i, -, inInterface⟩ := List.mem_flatMap.mp inInterfaces
    exact interfaces i node inInterface
  · obtain ⟨w, -, inWorld⟩ := List.mem_flatMap.mp inWorlds
    exact worlds w node inWorld

/-- A traversal does not fail, and its report has one outcome for every node of the listing, in the
order of the listing, with the kind and the name of the node. A lookup finds the outcome of the
first node with the kind and name that are asked for, and nothing when there is no such node; a
lookup of fields or cases finds nothing. The choices of a scheduler are part of the session. -/
theorem Service.traverse_covers {σ : Type} (s : Service σ) (schema : Schema)
    (session : Session σ) :
    ∃ report final, (s.traverse schema).run.run session = (.ok report, final) ∧
      report.outcomes.map (fun o => (o.kind, o.name)) =
        schema.nodes.map (fun node => (node.kind, node.name)) ∧
      report.nodesVisited = schema.nodes.length ∧
      (∀ kind name, report.find? kind name =
        (schema.nodes.findIdx? fun node => node.kind = kind && node.name = name).bind
          (report.outcomes[·]?)) ∧
      (∀ kind name, report.find? kind name = none ↔
        ∀ node ∈ schema.nodes, ¬(node.kind = kind ∧ node.name = name)) ∧
      ∀ name, report.find? .field name = none ∧ report.find? .variantCase name = none := by
  obtain ⟨report, final, run, labels⟩ := s.traverse_labels schema session
  have absent (kind : NodeKind) (name : String) := Report.find?_eq_none_of_labels labels kind name
  refine ⟨report, final, run, labels, ?_, Report.find?_eq_of_labels labels, absent, ?_⟩
  · simpa [Report.nodesVisited] using congrArg List.length labels
  · intro name
    rw [absent, absent]
    exact ⟨fun node member same => (Schema.kind_of_mem_nodes node member).1 same.1,
      fun node member same => (Schema.kind_of_mem_nodes node member).2 same.1⟩

end SchemaWeaver
