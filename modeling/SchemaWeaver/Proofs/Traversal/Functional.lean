import SchemaWeaver.Proofs.Traversal.Invariant
import SchemaWeaver.Proofs.Traversal.Sequential

/-!
# Hooks that are functions of their arguments

When no hook reads or changes the state of the visitors, a visit to a node is a value: `visit node`
is `pure o` for some outcome `o`. That the steps which a job has still to take lead to this value is
an invariant of the walk, so that every traversal reports the values of its nodes, whatever state it
starts from and whichever worker goes on at any time.
-/

namespace SchemaWeaver

/-- A visitor whose hook is a function of its arguments. -/
def Visitor.Functional {σ : Type} (v : Visitor σ) : Prop :=
  ∃ answer : HookCall → Answer, ∀ call, v.hook call = pure (answer call)

theorem Visitor.functional_ofFunction {σ : Type} (className target : String) (family : Backend)
    (kinds : List NodeKind) (answer : Payload → Node → Option Contribution) :
    (ofFunction className target family kinds answer : Visitor σ).Functional :=
  ⟨_, fun _ => rfl⟩

/-- A registry all of whose visitors have hooks that are functions of their arguments. -/
def Registry.Functional {σ : Type} (r : Registry σ) : Prop :=
  ∀ target v, r.find? target = some v → v.Functional

namespace Service

variable {σ : Type} {s : Service σ}

theorem reply_of_functional (functional : s.registry.Functional) (step : Step) :
    ∃ reply, s.reply step = pure reply := by
  unfold reply
  cases found : s.registry.find? step.target with
  | none => exact ⟨none, rfl⟩
  | some v =>
    obtain ⟨answer, acts⟩ := functional step.target v found
    refine ⟨some (answer (hookCall step)), ?_⟩
    dsimp only
    rw [acts, map_pure]

theorem take_of_functional (functional : s.registry.Functional) (o : Outcome) (step : Step) :
    ∃ reply, s.take o step = pure (s.takenIn step o reply) := by
  obtain ⟨reply, replies⟩ := reply_of_functional functional step
  exact ⟨reply, by rw [take, replies, pure_bind]⟩

theorem foldlM_take_of_functional (functional : s.registry.Functional) (steps : List Step)
    (o : Outcome) : ∃ o', steps.foldlM s.take o = pure o' := by
  induction steps generalizing o with
  | nil => exact ⟨o, rfl⟩
  | cons step steps ih =>
    obtain ⟨reply, taken⟩ := take_of_functional functional o step
    rw [List.foldlM_cons, taken, pure_bind]
    exact ih _

/-- The visits to nodes are values. -/
theorem visits_of_functional (functional : s.registry.Functional) (nodes : List Node) :
    ∃ outcomes, List.Forall₂ (fun node o => s.visit node = pure o) nodes outcomes := by
  induction nodes with
  | nil => exact ⟨[], .nil⟩
  | cons node nodes ih =>
    obtain ⟨outcomes, visited⟩ := ih
    obtain ⟨o, visit⟩ := foldlM_take_of_functional functional node.steps (s.begin node)
    exact ⟨o :: outcomes, .cons visit visited⟩

/-- The steps that a job has still to take lead to the value of the visit. -/
def LeadsToVisit (s : Service σ) (site : Site) (job : Job) : Prop :=
  job.outcome.consumed = false ∧
    job.steps.foldlM s.take job.outcome = site.steps.foldlM s.take (s.begin site.head)

theorem leadsToVisit_invariant (functional : s.registry.Functional) :
    s.Invariant s.LeadsToVisit where
  start _ := ⟨rfl, rfl⟩
  keeps _ o step steps := by
    rintro ⟨isOpen, leads⟩
    obtain ⟨reply, taken⟩ := take_of_functional functional o step
    rw [List.foldlM_cons, taken, pure_bind] at leads
    have performs := s.perform_refines isOpen step
    rw [taken] at performs
    exact performs.ensures fun _ =>
      ⟨(s.sameVisit_takenIn step o reply).consumed.trans isOpen, leads⟩

/-- Jobs that have taken all of their steps hold the values of the visits. -/
theorem visits_of_reported {nodes : List Node} {outcomes : List Outcome}
    (reported : Reported s.LeadsToVisit (nodes.map Node.site) outcomes) :
    List.Forall₂ (fun node o => s.visit node = pure o) nodes outcomes :=
  (List.forall₂_map_left_iff.mp reported).imp fun _ _ finished => finished.2.symm

/-- A traversal reports the values of the visits to the nodes of the schema. -/
theorem traverse_of_functional (functional : s.registry.Functional) (schema : Schema) :
    Engine.Ensures (s.traverse schema) fun report =>
      report.package = schema.package ∧
        List.Forall₂ (fun node o => s.visit node = pure o) schema.nodes report.outcomes := by
  refine ((leadsToVisit_invariant functional).traverse_ensures schema).mono fun report told => ?_
  rw [schema.sites_eq] at told
  exact ⟨told.1, visits_of_reported told.2⟩

/-- Visits have one value each. -/
theorem visits_unique {nodes : List Node} {outcomes outcomes' : List Outcome} (state : σ)
    (h : List.Forall₂ (fun node o => s.visit node = pure o) nodes outcomes)
    (h' : List.Forall₂ (fun node o => s.visit node = pure o) nodes outcomes') :
    outcomes = outcomes' := by
  refine List.right_unique_forall₂' ?_ h h'
  intro node o o' visit visit'
  exact congrArg (fun m : StateM σ Outcome => (m.run state).1) (visit.symm.trans visit')

end Service

end SchemaWeaver
