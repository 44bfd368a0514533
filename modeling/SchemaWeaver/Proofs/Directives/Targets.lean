import SchemaWeaver.Directives

/-!
# Targets and the directives of other targets

The targets of a node are its annotation targets without later repetitions. Whatever a node says to
one target depends on the directives of this target alone, so that the directives of other targets
can be taken away without changing it. What two annotation lists say one behind the other is put
together from what each of them says.
-/

namespace SchemaWeaver

section Distinct

variable {α : Type} [DecidableEq α]

/-- Which members are kept by a test does not depend on whether repetitions are dropped first. -/
theorem distinct_filter (p : α → Bool) (xs : List α) :
    distinct (xs.filter p) = (distinct xs).filter p := by
  induction xs with
  | nil => rfl
  | cons x xs ih =>
    by_cases hx : p x = true
    · simp only [List.filter_cons_of_pos hx, distinct, ih, List.filter_filter, Bool.and_comm]
    · have same : ∀ y ∈ distinct xs, (p y && decide (y ≠ x)) = p y := by
        intro y _
        by_cases hy : y = x
        · subst hy
          simp [hx]
        · simp [hy]
      rw [List.filter_cons_of_neg hx, distinct, List.filter_cons_of_neg hx, List.filter_filter, ih]
      exact (List.filter_congr same).symm

/-- Of further members those count that have not occurred before. -/
theorem distinct_append (xs ys : List α) :
    distinct (xs ++ ys) = distinct xs ++ (distinct ys).filter fun y => y ∉ distinct xs := by
  induction xs with
  | nil => exact (List.filter_eq_self.mpr fun y _ => rfl).symm
  | cons x xs ih =>
    rw [List.cons_append, distinct, ih, distinct, List.filter_append, List.filter_filter,
      List.cons_append]
    congr 2
    refine List.filter_congr fun y _ => ?_
    by_cases h : y = x <;> simp [h]

theorem distinct_concat (xs : List α) (x : α) :
    distinct (xs ++ [x]) = if x ∈ xs then distinct xs else distinct xs ++ [x] := by
  rw [distinct_append]
  by_cases h : x ∈ xs <;> simp [distinct, h]

/-- Members in the order of their first occurrence. -/
theorem distinct_eq_eraseDups (xs : List α) : distinct xs = xs.eraseDups := by
  match xs with
  | [] => rfl
  | x :: xs =>
    rw [distinct, List.eraseDups_cons, ← distinct_filter, distinct_eq_eraseDups]
    congr 2
    exact List.filter_congr fun y _ => by by_cases h : y = x <;> simp [h]
termination_by xs.length
decreasing_by exact Nat.lt_succ_of_le (List.length_filter_le ..)

end Distinct

namespace Directives

section Append

variable (xs ys : List Directive) (target : String)

theorem targets_append : targets (xs ++ ys) =
    targets xs ++ (targets ys).filter fun other => other ∉ targets xs := by
  rw [targets, List.map_append, distinct_append]
  rfl

theorem payloadsFor_append :
    payloadsFor (xs ++ ys) target = payloadsFor xs target ++ payloadsFor ys target := by
  simp only [payloadsFor, List.filter_append, List.map_append]

theorem textsFor_append :
    textsFor (xs ++ ys) target = textsFor xs target ++ textsFor ys target := by
  simp only [textsFor, payloadsFor_append, List.filterMap_append]

theorem mapsFor_append : mapsFor (xs ++ ys) target = mapsFor xs target ++ mapsFor ys target := by
  simp only [mapsFor, payloadsFor_append, List.filterMap_append]

end Append

/-- The directives that do not address a target. -/
def without (target : String) (directives : List Directive) : List Directive :=
  directives.filter fun d => d.target ≠ target

theorem targets_without (target : String) (directives : List Directive) :
    targets (without target directives) =
      (targets directives).filter fun other => other ≠ target := by
  rw [targets, without, targets, ← distinct_filter, List.filter_map]
  rfl

theorem payloadsFor_without {target other : String} (h : other ≠ target)
    (directives : List Directive) :
    payloadsFor (without target directives) other = payloadsFor directives other := by
  rw [payloadsFor, without, List.filter_filter, payloadsFor]
  congr 1
  refine List.filter_congr fun d _ => ?_
  by_cases hd : d.target = other
  · simp [hd, h]
  · simp [hd]

/-- The directives of a target do not matter to what the node says to another one. -/
theorem payloadFor_without {target other : String} (h : other ≠ target)
    (directives : List Directive) :
    payloadFor (without target directives) other = payloadFor directives other := by
  simp only [payloadFor, textsFor, combinedMapFor, mapsFor, payloadsFor_without h]

theorem collisions_without {target other : String} (h : other ≠ target)
    (directives : List Directive) :
    collisions (without target directives) other = collisions directives other := by
  simp only [collisions, mapsFor, payloadsFor_without h]

end Directives

end SchemaWeaver
