import Mathlib.Data.List.Induction
import SchemaWeaver.Proofs.OrderedMap
import SchemaWeaver.Contribution.Basic

/-!
# Merging contributions one after another

Contributions to one place are merged from left to right, and one that cannot be merged with what
the place holds is left out. Contributions of one shape can always be merged, and then every list
holds the fragments of all of them, one contribution after another.
-/

namespace SchemaWeaver

theorem Action.max_eq_skip_iff {a b : Action} : a.max b = .skip ↔ a = .skip ∨ b = .skip := by
  cases a <;> cases b <;> decide

theorem Action.max_eq_keep_iff {a b : Action} : a.max b = .keep ↔ a = .keep ∧ b = .keep := by
  cases a <;> cases b <;> decide

/-- An action is told by whether it skips. -/
theorem Action.eq_of_skip_iff {a b : Action} (h : a = .skip ↔ b = .skip) : a = b := by
  cases a <;> cases b <;> simp_all

theorem Action.max_keep (a : Action) : a.max .keep = a := by
  cases a <;> rfl

theorem Action.max_skip (a : Action) : a.max .skip = .skip := by
  cases a <;> rfl

theorem Shape.common?_self (shape : Shape) : shape.common? shape = some shape :=
  if_pos (Extends.refl shape)

/-- A shape has all lists of the shapes that it extends. -/
theorem Shape.lists_subset_of_extends {shape base : Shape} (h : shape.Extends base) :
    base.lists ⊆ shape.lists := by
  intro list member
  rw [lists, mem_distinct, List.mem_flatMap] at member ⊢
  obtain ⟨layer, isLayer, listed⟩ := member
  exact ⟨layer, h.subset isLayer, listed⟩

theorem Shape.common?_eq_none_iff {a b : Shape} :
    a.common? b = none ↔ ¬b.Extends a ∧ ¬a.Extends b := by
  unfold common?
  split
  · simp [*]
  · split <;> simp [*]

/-- The common shape of two shapes is the one that the other extends. -/
theorem Shape.common?_eq_some {a b shape : Shape} (h : a.common? b = some shape) :
    b.Extends a ∧ shape = a ∨ a.Extends b ∧ shape = b := by
  unfold common? at h
  split at h
  · rename_i extension
    cases h
    exact .inl ⟨extension, rfl⟩
  · split at h
    · rename_i extension
      cases h
      exact .inr ⟨extension, rfl⟩
    · cases h

/-- The more basic of two shapes has the lists that both have. -/
theorem Shape.mem_lists_of_common? {a b shape : Shape} (h : a.common? b = some shape)
    (list : String) : list ∈ shape.lists ↔ list ∈ a.lists ∧ list ∈ b.lists := by
  rcases common?_eq_some h with ⟨extension, rfl⟩ | ⟨extension, rfl⟩
  · exact ⟨fun member => ⟨member, lists_subset_of_extends extension member⟩, And.left⟩
  · exact ⟨fun member => ⟨lists_subset_of_extends extension member, member⟩, And.right⟩

namespace Contribution

theorem lookup_tabulated (names : List String) (fragments : String → List String) (list : String) :
    (names.map fun name => (name, fragments name)).lookup list =
      if list ∈ names then some (fragments list) else none := by
  induction names with
  | nil => rfl
  | cons name names ih =>
    rw [List.map_cons, lookup_cons_eq_ite, ih]
    by_cases h : list = name <;> simp [h]

theorem fragments_tabulate (shape : Shape) (action : Action) (fragments : String → List String)
    (list : String) :
    (tabulate shape action fragments).fragments list =
      if list ∈ shape.lists then fragments list else [] := by
  change ((shape.lists.map fun name => (name, fragments name)).lookup list).getD [] = _
  rw [lookup_tabulated]
  split <;> rfl

/-- A list that the shape lacks has no fragments. -/
theorem fragments_of_notMem {c : Contribution} {list : String} (h : list ∉ c.shape.lists) :
    c.fragments list = [] := by
  have absent : c.lists.find? list = none := by
    rw [← Option.not_isSome_iff_eq_none, OrderedMap.find?_isSome_iff, c.keys_lists]
    exact h
  rw [fragments, absent]
  rfl

/-- A contribution without fragments has none in any list. -/
theorem isEmpty_iff {c : Contribution} : c.isEmpty = true ↔ ∀ list, c.fragments list = [] := by
  rw [isEmpty, List.all_eq_true]
  constructor
  · intro empty list
    rw [fragments]
    cases held : c.lists.find? list with
    | none => rfl
    | some written =>
      have value : written ∈ c.lists.values :=
        List.mem_map.mpr ⟨(list, written), OrderedMap.find?_eq_some_iff.mp held, rfl⟩
      exact List.isEmpty_iff.mp (empty written value)
  · intro empty written value
    obtain ⟨⟨list, _⟩, entry, rfl⟩ := List.mem_map.mp value
    have held := empty list
    rw [fragments, OrderedMap.find?_eq_some_iff.mpr entry] at held
    exact List.isEmpty_iff.mpr held

/-- What a merge that succeeds gives: the lists that both contributions have, each with the
fragments of both. -/
theorem merge_eq_ok {c d merged : Contribution} (h : c.merge d = .ok merged) :
    c.shape.common? d.shape = some merged.shape ∧ merged.action = c.action.max d.action ∧
      ∀ list, merged.fragments list =
        if list ∈ c.shape.lists ∧ list ∈ d.shape.lists then c.fragments list ++ d.fragments list
        else [] := by
  unfold merge at h
  split at h
  · rename_i shape common
    cases h
    refine ⟨common, rfl, fun list => ?_⟩
    rw [fragments_tabulate]
    exact if_congr (Shape.mem_lists_of_common? common list) rfl rfl
  · cases h

/-- Exactly the contributions of which neither shape extends the other cannot be merged. -/
theorem merge_eq_error_iff {c d : Contribution} {reason : MergeMismatch} :
    c.merge d = .error reason ↔ (¬d.shape.Extends c.shape ∧ ¬c.shape.Extends d.shape) ∧
      reason = ⟨d.shape.name, c.shape.name⟩ := by
  rw [← Shape.common?_eq_none_iff, merge]
  cases c.shape.common? d.shape with
  | some shape => simp
  | none => simp [eq_comm]

/-- Contributions of one shape are merged list by list. -/
theorem merge_of_shape_eq {c d : Contribution} (same : d.shape = c.shape) :
    ∃ merged, c.merge d = .ok merged ∧ merged.shape = c.shape ∧
      merged.action = c.action.max d.action ∧
      ∀ list, merged.fragments list = c.fragments list ++ d.fragments list := by
  refine ⟨tabulate c.shape (c.action.max d.action) fun list =>
    c.fragments list ++ d.fragments list, ?_, rfl, rfl, fun list => ?_⟩
  · rw [merge, same, Shape.common?_self]
  · rw [fragments_tabulate]
    split
    · rfl
    · rename_i absent
      rw [fragments_of_notMem absent, fragments_of_notMem (same ▸ absent)]
      rfl

/-- What a place holds after a contribution to it: the two are merged when they can be. -/
def absorb (held? : Option Contribution) (c : Contribution) : Option Contribution :=
  match held? with
  | none => some c
  | some held =>
    match held.merge c with
    | .ok merged => some merged
    | .error _ => some held

/-- Contributions merged from left to right, without those that cannot be merged. -/
def mergeAll (contributions : List Contribution) : Option Contribution :=
  contributions.foldl absorb none

theorem absorb_isSome (held? : Option Contribution) (c : Contribution) :
    (absorb held? c).isSome = true := by
  unfold absorb
  split
  · rfl
  · split <;> rfl

theorem mergeAll_concat (contributions : List Contribution) (c : Contribution) :
    mergeAll (contributions ++ [c]) = absorb (mergeAll contributions) c :=
  List.foldl_append ..

/-- A place is empty exactly when nothing was contributed to it. -/
theorem mergeAll_eq_none_iff {contributions : List Contribution} :
    mergeAll contributions = none ↔ contributions = [] := by
  constructor
  · intro nothing
    cases contributions using List.reverseRecOn with
    | nil => rfl
    | append_singleton contributions c =>
      rw [mergeAll_concat] at nothing
      have something := absorb_isSome (mergeAll contributions) c
      rw [nothing] at something
      cases something
  · rintro rfl
    rfl

/-- Of contributions of one shape none is left out. -/
theorem mergeAll_of_shape_eq {shape : Shape} {contributions : List Contribution}
    (same : ∀ c ∈ contributions, c.shape = shape) :
    ∀ merged, mergeAll contributions = some merged → merged.shape = shape ∧
      (∀ list, merged.fragments list = contributions.flatMap fun c => c.fragments list) ∧
      (merged.action = .skip ↔ ∃ c ∈ contributions, c.action = .skip) := by
  induction contributions using List.reverseRecOn with
  | nil => exact fun _ h => by cases h
  | append_singleton contributions c ih =>
    have shape_c : c.shape = shape := same c (by simp)
    intro merged h
    rw [mergeAll_concat] at h
    cases before : mergeAll contributions with
    | none =>
      rw [before] at h
      cases h
      rw [mergeAll_eq_none_iff.mp before]
      exact ⟨shape_c, by simp, by simp⟩
    | some held =>
      obtain ⟨shape_held, lists, action⟩ :=
        ih (fun c member => same c (by simp [member])) held before
      obtain ⟨both, merges, shape_both, action_both, lists_both⟩ :=
        merge_of_shape_eq (c := held) (d := c) (shape_c.trans shape_held.symm)
      rw [before, absorb, merges] at h
      cases h
      refine ⟨shape_both.trans shape_held, fun list => ?_, ?_⟩
      · rw [lists_both, lists, List.flatMap_append, List.flatMap_singleton]
      · rw [action_both, Action.max_eq_skip_iff, action]
        simp [or_and_right, exists_or]

end Contribution

end SchemaWeaver
