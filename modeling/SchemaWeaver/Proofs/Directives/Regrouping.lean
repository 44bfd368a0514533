import Mathlib.Logic.Relation
import SchemaWeaver.Proofs.Directives.Options

/-!
# What each target reads

What the directives of a node say to a target depends on the directives of this target alone, in
their order. So directives of other targets may be inserted and deleted anywhere, and the directives
may be regrouped by target. Nothing is lost when directives are read: every text goes to its target,
at its place among the texts of this target, and every key is an option of its target.
-/

namespace SchemaWeaver

/-- The text that a directive carries, with the target that it addresses. -/
def Directive.told? (d : Directive) : Option (String × String) :=
  match d.payload with
  | .text value => some (d.target, value)
  | .options _ => none

namespace Directives

/-- The directives of a target, in source order. -/
def toTarget (target : String) (directives : List Directive) : List Directive :=
  directives.filter fun d => d.target = target

/-- One directive of another target is inserted. -/
inductive InsertsOther (target : String) : List Directive → List Directive → Prop
  | insert (before after : List Directive) {d : Directive} (other : d.target ≠ target) :
      InsertsOther target (before ++ after) (before ++ d :: after)

/-- Annotation lists that differ by insertions and deletions of directives of other targets, any
number of them at any places. -/
abbrev EditsOthers (target : String) : List Directive → List Directive → Prop :=
  Relation.EqvGen (InsertsOther target)

/-- The directives regrouped by target: the targets in the order in which they are first addressed,
and the directives of each target in source order. -/
def regrouped (directives : List Directive) : List Directive :=
  (targets directives).flatMap fun target => toTarget target directives

section Reading

variable {xs ys : List Directive} {target : String}

theorem toTarget_of_editsOthers (edits : EditsOthers target xs ys) :
    toTarget target ys = toTarget target xs := by
  induction edits with
  | rel xs ys inserts =>
    obtain ⟨before, after, other⟩ := inserts
    rw [toTarget, toTarget, List.filter_append, List.filter_append,
      List.filter_cons_of_neg (by simpa using other)]
  | refl xs => rfl
  | symm xs ys _ ih => exact ih.symm
  | trans xs ys zs _ _ first second => exact second.trans first

theorem payloadFor_congr (same : toTarget target ys = toTarget target xs) :
    payloadFor ys target = payloadFor xs target := by
  have carried : payloadsFor ys target = payloadsFor xs target :=
    congrArg (List.map Directive.payload) same
  simp only [payloadFor, textsFor, combinedMapFor, mapsFor, carried]

theorem collisions_congr (same : toTarget target ys = toTarget target xs) :
    collisions ys target = collisions xs target := by
  have carried : payloadsFor ys target = payloadsFor xs target :=
    congrArg (List.map Directive.payload) same
  simp only [collisions, mapsFor, carried]

end Reading

section Grouping

variable {directives : List Directive} {target : String}

theorem nodup_targets (directives : List Directive) : (targets directives).Nodup :=
  nodup_distinct _

theorem mem_toTarget {d : Directive} : d ∈ toTarget target directives ↔
    d ∈ directives ∧ d.target = target := by
  simp [toTarget]

theorem toTarget_eq_nil (absent : target ∉ targets directives) :
    toTarget target directives = [] := by
  refine List.eq_nil_iff_forall_not_mem.mpr fun d member => absent ?_
  obtain ⟨present, addressed⟩ := mem_toTarget.mp member
  exact mem_distinct.mpr (List.mem_map.mpr ⟨d, present, addressed⟩)

/-- The directives of a target address this target only. -/
theorem targets_toTarget (present : target ∈ targets directives) :
    targets (toTarget target directives) = [target] := by
  have kept : targets (toTarget target directives) =
      (targets directives).filter fun other => other = target := by
    rw [targets, toTarget, targets, ← distinct_filter, List.filter_map]
    rfl
  have once : (targets directives).count target = 1 :=
    List.count_eq_one_of_mem (nodup_targets directives) present
  rw [kept, List.filter_eq, once]
  rfl

/-- Groups of different targets, one behind the other, keep the directives of each target. -/
theorem toTarget_groups {groups : List String} (nodup : groups.Nodup) (target : String)
    (directives : List Directive) :
    toTarget target (groups.flatMap fun group => toTarget group directives) =
      if target ∈ groups then toTarget target directives else [] := by
  induction groups with
  | nil => rfl
  | cons group groups ih =>
    obtain ⟨fresh, nodup⟩ := List.nodup_cons.mp nodup
    have inFirst : toTarget target (toTarget group directives) =
        if target = group then toTarget target directives else [] := by
      rw [toTarget, toTarget, List.filter_filter]
      by_cases same : target = group
      · subst same
        simp [toTarget]
      · rw [if_neg same, List.filter_eq_nil_iff]
        intro d _ both
        simp only [Bool.and_eq_true, decide_eq_true_eq] at both
        exact same (both.1.symm.trans both.2)
    rw [List.flatMap_cons, toTarget, List.filter_append]
    change toTarget target (toTarget group directives) ++ toTarget target _ = _
    rw [inFirst, ih nodup]
    by_cases same : target = group
    · subst same
      simp [fresh]
    · simp [same]

theorem targets_groups {groups : List String} (nodup : groups.Nodup)
    (present : ∀ group ∈ groups, group ∈ targets directives) :
    targets (groups.flatMap fun group => toTarget group directives) = groups := by
  induction groups with
  | nil => rfl
  | cons group groups ih =>
    obtain ⟨fresh, nodup⟩ := List.nodup_cons.mp nodup
    obtain ⟨first, others⟩ := List.forall_mem_cons.mp present
    rw [List.flatMap_cons, targets_append, targets_toTarget first, ih nodup others]
    refine congrArg (group :: ·) (List.filter_eq_self.mpr fun other member => ?_)
    simpa using ne_of_mem_of_not_mem member fresh

/-- Regrouping keeps the directives of each target and their order. -/
theorem toTarget_regrouped (target : String) (directives : List Directive) :
    toTarget target (regrouped directives) = toTarget target directives := by
  rw [regrouped, toTarget_groups (nodup_targets directives)]
  split
  · rfl
  · rename_i absent
    exact (toTarget_eq_nil absent).symm

/-- Regrouping keeps the targets and their order. -/
theorem targets_regrouped (directives : List Directive) :
    targets (regrouped directives) = targets directives :=
  targets_groups (nodup_targets directives) fun _ member => member

/-- Regrouping neither drops nor repeats a directive. -/
theorem regrouped_perm (directives : List Directive) : (regrouped directives).Perm directives := by
  refine List.perm_iff_count.mpr fun d => ?_
  have counted (xs : List Directive) : xs.count d = (toTarget d.target xs).count d :=
    (List.count_filter (by simp)).symm
  rw [counted, counted directives, toTarget_regrouped]

end Grouping

section Extraction

variable (directives : List Directive)

/-- The texts of a target are those that its directives carry. -/
theorem map_textsFor (target : String) :
    (textsFor directives target).map (fun value => (target, value)) =
      (toTarget target directives).filterMap Directive.told? := by
  rw [textsFor, payloadsFor, List.filterMap_map, List.map_filterMap]
  refine List.filterMap_congr fun d member => ?_
  have addressed : d.target = target := (mem_toTarget.mp member).2
  cases carried : d.payload <;> simp [Directive.told?, carried, addressed]

/-- Over all targets every text is read exactly once. -/
theorem texts_perm :
    ((targets directives).flatMap fun target =>
      (payloadFor directives target).values.map fun value => (target, value)).Perm
        (directives.filterMap Directive.told?) := by
  have read : ((targets directives).flatMap fun target =>
      (payloadFor directives target).values.map fun value => (target, value)) =
        (regrouped directives).filterMap Directive.told? := by
    rw [regrouped, List.filterMap_flatMap]
    exact List.flatMap_congr fun target _ => map_textsFor directives target
  rw [read]
  exact (regrouped_perm directives).filterMap _

/-- A text stands among the texts of its target behind those of the directives before it. -/
theorem values_of_split (before after : List Directive) {d : Directive} {value : String}
    (carried : d.payload = .text value) :
    (payloadFor (before ++ d :: after) d.target).values =
      (payloadFor before d.target).values ++ value :: (payloadFor after d.target).values := by
  have own : textsFor [d] d.target = [value] := by
    simp [textsFor, payloadsFor, carried]
  have split : before ++ d :: after = before ++ ([d] ++ after) := rfl
  simp only [payloadFor, split, textsFor_append, own]
  rfl

/-- Every key that a directive sets is an option of its target. -/
theorem mem_keys_options {d : Directive} {entries : OrderedMap String} {key : String}
    (member : d ∈ directives) (carried : d.payload = .options entries) (sets : key ∈ entries.keys) :
    key ∈ (payloadFor directives d.target).options.keys := by
  have own : d.optionsFor? d.target = some entries := by
    simp [Directive.optionsFor?, carried]
  have set : key ∈ keysSet directives d.target :=
    List.mem_flatMap.mpr ⟨entries, List.mem_filterMap.mpr ⟨d, member, own⟩, sets⟩
  rw [payloadFor, keys_combinedMapFor, mem_distinct]
  exact set

end Extraction

end Directives

end SchemaWeaver
