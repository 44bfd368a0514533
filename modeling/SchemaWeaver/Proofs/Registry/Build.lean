import SchemaWeaver.Proofs.OrderedMap
import SchemaWeaver.Proofs.Visitor.Builtin
import SchemaWeaver.Registry

/-!
# Registries built from visitors

Visitors of one family under distinct targets can always be added, and a registry that is built from
them holds these visitors and no others. The visitors shipped for a backend are of this sort.
-/

namespace SchemaWeaver

namespace Registry

variable {σ : Type}

/-- Visitors under the targets that they are registered for. -/
def underTargets (visitors : List (Visitor σ)) : List (String × Visitor σ) :=
  visitors.map fun v => (v.target, v)

theorem register_of_fresh {r : Registry σ} {target : String} {v : Visitor σ}
    (thawed : r.frozen = false) (family : v.family = r.family) (fresh : target ∉ r.visitors.keys) :
    r.register target v = .ok ({ r with visitors := r.visitors.insert target v }, []) := by
  have unknown : r.find? target = none := by
    rw [find?, ← Option.not_isSome_iff_eq_none, OrderedMap.find?_isSome_iff]
    exact fresh
  simp only [register, thawed, Bool.false_eq_true, if_false, family, ne_eq, not_true_eq_false,
    unknown]

theorem addAll_of_fresh {r : Registry σ} (thawed : r.frozen = false) {visitors : List (Visitor σ)}
    (family : ∀ v ∈ visitors, v.family = r.family)
    (distinct : (r.visitors.keys ++ visitors.map Visitor.target).Nodup) :
    r.addAll visitors =
      ({ r with visitors := r.visitors.insertAll (underTargets visitors) }, [], none) := by
  induction visitors generalizing r with
  | nil => rfl
  | cons v visitors ih =>
    have fresh : v.target ∉ r.visitors.keys := by
      rw [List.map_cons, List.nodup_append] at distinct
      exact fun member => distinct.2.2 _ member _ (List.mem_cons_self ..) rfl
    have added := register_of_fresh thawed (family v (List.mem_cons_self ..)) fresh
    have later := @ih { r with visitors := r.visitors.insert v.target v } thawed
      (fun other member => family other (List.mem_cons_of_mem _ member)) (by
        dsimp only
        rw [OrderedMap.keys_insert, if_neg fresh, List.append_assoc]
        exact distinct)
    rw [addAll, add, added]
    dsimp only
    rw [later]
    rfl

/-- Visitors of one family under distinct targets make a registry. -/
theorem build_of_nodup {visitors : List (Visitor σ)} {family : Backend}
    (same : ∀ v ∈ visitors, v.family = family) (nonempty : visitors ≠ [])
    (distinct : (visitors.map Visitor.target).Nodup) (policy : DuplicatePolicy) :
    build visitors none policy =
      .ok (⟨family, policy, .ofList (underTargets visitors), false⟩, []) := by
  have chosen : chosenFamily none visitors = family := by
    cases visitors with
    | nil => exact absurd rfl nonempty
    | cons v others => exact same v (List.mem_cons_self ..)
  have added := addAll_of_fresh (r := empty family policy) rfl same distinct
  rw [build, chosen, added]
  rfl

/-- A registry that is built from visitors finds nothing but these visitors. -/
theorem mem_of_find?_underTargets {visitors : List (Visitor σ)} {target : String} {v : Visitor σ}
    (h : (OrderedMap.ofList (underTargets visitors)).find? target = some v) : v ∈ visitors := by
  obtain ⟨w, member, same⟩ :=
    List.mem_map.mp (OrderedMap.mem_of_mem_ofList (OrderedMap.find?_eq_some_iff.mp h))
  exact (Prod.mk.inj same).2 ▸ member

end Registry

/-- The visitors shipped for a backend behave, and make a registry under every policy. -/
theorem Backend.build_defaultVisitors {σ : Type} {backend : Backend} (shipped : backend ∈ all)
    (policy : DuplicatePolicy) : ∃ visitors : List (Visitor σ),
      defaultVisitors backend.name = .ok visitors ∧
      (∀ v ∈ visitors, v.family = backend ∧ v.Behaves) ∧
      Registry.build visitors none policy =
        .ok (⟨backend, policy, .ofList (Registry.underTargets visitors), false⟩, []) := by
  rw [all, List.mem_cons, List.mem_singleton] at shipped
  rcases shipped with rfl | rfl
  · have behave := Visitor.rustDefaults_behave (σ := σ)
    refine ⟨Visitor.rustDefaults, rfl, behave, ?_⟩
    refine Registry.build_of_nodup (fun v member => (behave v member).1) (List.cons_ne_nil _ _) ?_
      policy
    change ["derive", "deprecated", "trace", "log", "since", "validate", "serde"].Nodup
    decide
  · have behave := Visitor.pythonDefaults_behave (σ := σ)
    refine ⟨Visitor.pythonDefaults, rfl, behave, ?_⟩
    refine Registry.build_of_nodup (fun v member => (behave v member).1) (List.cons_ne_nil _ _) ?_
      policy
    change ["dataclass", "trace"].Nodup
    decide

theorem Backend.defaultVisitors_subset {σ : Type} {name : String} {visitors : List (Visitor σ)}
    (h : defaultVisitors name = .ok visitors) : visitors ⊆ Visitor.builtin := by
  unfold defaultVisitors at h
  cases named : Backend.named name with
  | error reason =>
    rw [named] at h
    cases h
  | ok backend =>
    rw [named] at h
    cases h
    dsimp only
    split
    · exact List.subset_append_right _ _
    · exact List.subset_append_left _ _

/-- No visitors are shipped under other names. -/
theorem Backend.defaultVisitors_of_unknown {σ : Type} {name : String}
    (unknown : ∀ backend ∈ all, backend.name ≠ name) :
    (defaultVisitors name : Except SetupError (List (Visitor σ))) =
      .error (.unknownBackend name) := by
  have notFound : find? name = none := List.find?_eq_none.mpr fun backend shipped =>
    mt beq_iff_eq.mp (unknown backend shipped)
  rw [defaultVisitors, named, notFound]
  rfl

end SchemaWeaver
