import Mathlib.Data.List.Nodup
import SchemaWeaver.Proofs.Directives.Targets

/-!
# Keys that are set more than once

The collisions of a target are collected in one pass over the keys of its option maps. They are the
keys that at least two of these maps set, each once: a map sets a key at most once, so a key occurs
in the pass as often as there are maps that set it.
-/

namespace SchemaWeaver

section Repeated

variable {α : Type} [DecidableEq α]

/-- Scanning on finds what occurred before, or occurs twice in what is left. -/
theorem mem_repeatedAfter {y : α} {seen found xs : List α} :
    y ∈ repeatedAfter seen found xs ↔ y ∈ found ∨ y ∈ seen ∧ y ∈ xs ∨ 2 ≤ xs.count y := by
  induction xs generalizing seen found with
  | nil => simp [repeatedAfter]
  | cons x xs ih =>
    have added : y ∈ (if x ∈ seen && !(x ∈ found) then found ++ [x] else found) ↔
        y ∈ found ∨ y = x ∧ x ∈ seen := by
      by_cases hs : x ∈ seen <;> by_cases hf : x ∈ found <;> simp [hs, hf]
      rintro rfl
      exact hf
    rw [repeatedAfter, ih, added, List.mem_cons, List.mem_cons, List.count_cons]
    by_cases h : y = x
    · subst h
      have once : y ∈ xs ↔ 1 ≤ xs.count y := List.one_le_count_iff.symm
      simp only [beq_self_eq_true, if_true, true_and, true_or, and_true]
      grind
    · have different : (x == y) = false := beq_eq_false_iff_ne.mpr (Ne.symm h)
      simp [h, different]

/-- What is repeated occurs at least twice. -/
theorem mem_repeated {y : α} {xs : List α} : y ∈ repeated xs ↔ 2 ≤ xs.count y := by
  simp [repeated, mem_repeatedAfter]

theorem nodup_repeatedAfter {seen found : List α} (xs : List α) (nodup : found.Nodup) :
    (repeatedAfter seen found xs).Nodup := by
  induction xs generalizing seen found with
  | nil => exact nodup
  | cons x xs ih =>
    rw [repeatedAfter]
    apply ih
    split
    · rename_i fresh
      have absent : x ∉ found := by simpa using (Bool.and_eq_true_iff.mp fresh).2
      exact List.nodup_append.mpr ⟨nodup, List.nodup_singleton x, by grind⟩
    · exact nodup

theorem nodup_repeated (xs : List α) : (repeated xs).Nodup :=
  nodup_repeatedAfter xs List.nodup_nil

end Repeated

/-- Whether a directive carries an option map for a target that sets a key. -/
def Directive.sets (target key : String) (d : Directive) : Bool :=
  d.target = target &&
    match d.payload with
    | .text _ => false
    | .options entries => entries.contains key

/-- A map has a key once or not at all. -/
theorem OrderedMap.count_keys {α : Type} (m : OrderedMap α) (key : String) :
    m.keys.count key = if m.contains key then 1 else 0 := by
  by_cases h : m.contains key = true
  · rw [if_pos h, List.count_eq_one_of_mem m.keys_nodup (contains_iff.mp h)]
  · rw [if_neg h, List.count_eq_zero_of_not_mem fun member => h (contains_iff.mpr member)]

namespace Directives

/-- A key occurs among the keys of the option maps once for each directive that sets it. -/
theorem count_keys_mapsFor (directives : List Directive) (target key : String) :
    ((mapsFor directives target).flatMap OrderedMap.keys).count key =
      directives.countP (Directive.sets target key) := by
  induction directives with
  | nil => rfl
  | cons d directives ih =>
    have first : ((mapsFor [d] target).flatMap OrderedMap.keys).count key =
        if d.sets target key then 1 else 0 := by
      by_cases addressed : d.target = target
      · cases carried : d.payload with
        | text value => simp [mapsFor, payloadsFor, Directive.sets, addressed, carried]
        | options entries =>
          simp [mapsFor, payloadsFor, Directive.sets, addressed, carried, entries.count_keys]
      · simp [mapsFor, payloadsFor, Directive.sets, addressed]
    rw [← List.singleton_append, mapsFor_append, List.flatMap_append, List.count_append, first, ih,
      List.singleton_append, List.countP_cons, Nat.add_comm]

/-- The collisions of a target are the keys that at least two of its option maps set. -/
theorem mem_collisions {directives : List Directive} {target key : String} :
    key ∈ collisions directives target ↔ 2 ≤ directives.countP (Directive.sets target key) := by
  rw [collisions, mem_repeated, count_keys_mapsFor]

theorem nodup_collisions (directives : List Directive) (target : String) :
    (collisions directives target).Nodup :=
  nodup_repeated _

/-- A target with a collision is addressed. -/
theorem mem_targets_of_mem_collisions {directives : List Directive} {target key : String}
    (h : key ∈ collisions directives target) : target ∈ targets directives := by
  have setTwice := mem_collisions.mp h
  obtain ⟨d, member, sets⟩ := List.countP_pos_iff.mp (Nat.lt_of_lt_of_le Nat.zero_lt_two setTwice)
  have addressed : d.target = target := by simpa using (Bool.and_eq_true_iff.mp sets).1
  exact mem_distinct.mpr (List.mem_map.mpr ⟨d, member, addressed⟩)

end Directives

end SchemaWeaver
