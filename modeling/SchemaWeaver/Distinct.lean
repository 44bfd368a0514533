/-!
# First and repeated occurrences

The distinct members of a list in the order of their first occurrence, and the members that occur
again in the order in which they first do so.
-/

namespace SchemaWeaver

variable {α : Type} [DecidableEq α]

/-- The members of a list, each at its first occurrence only. -/
def distinct : List α → List α
  | [] => []
  | x :: rest => x :: (distinct rest).filter (· ≠ x)

@[simp] theorem mem_distinct {x : α} {xs : List α} : x ∈ distinct xs ↔ x ∈ xs := by
  induction xs with
  | nil => simp [distinct]
  | cons y rest ih => by_cases h : x = y <;> simp [distinct, h, ih]

theorem nodup_distinct (xs : List α) : (distinct xs).Nodup := by
  induction xs with
  | nil => simp [distinct]
  | cons y rest ih =>
    rw [distinct, List.nodup_cons]
    exact ⟨by simp, ih.filter _⟩

/-- Collects the members of a list that occurred before, among them those of `seen`, behind those
that are found already. -/
def repeatedAfter (seen found : List α) : List α → List α
  | [] => found
  | x :: rest =>
    repeatedAfter (x :: seen) (if x ∈ seen && !(x ∈ found) then found ++ [x] else found) rest

/-- The members that occur at least twice, in the order of their second occurrence. -/
def repeated (xs : List α) : List α := repeatedAfter [] [] xs

end SchemaWeaver
