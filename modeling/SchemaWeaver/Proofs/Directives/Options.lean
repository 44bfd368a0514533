import SchemaWeaver.Proofs.Directives.Collisions
import SchemaWeaver.Proofs.Directives.Respelling

/-!
# First and last values of an option

An option of a target may be set by several directives. Its settings are the values that it is
given, in source order; what the queries on options tell about a key can be read off from them. The
folded map holds the last setting, the query for the first value gives the first one, and the key is
a collision when there are at least two. So the first and the last value differ for collisions only.
-/

namespace SchemaWeaver

/-- The option map that a directive carries for a target. -/
def Directive.optionsFor? (target : String) (d : Directive) : Option (OrderedMap String) :=
  if d.target = target then
    match d.payload with
    | .text _ => none
    | .options entries => some entries
  else none

namespace Directives

/-- The keys that are set for a target, in source order and as often as they are set. -/
def keysSet (directives : List Directive) (target : String) : List String :=
  (directives.filterMap (Directive.optionsFor? target)).flatMap OrderedMap.keys

/-- The values that an option of a target is given, in source order. -/
def settings (directives : List Directive) (target key : String) : List String :=
  (directives.filterMap (Directive.optionsFor? target)).filterMap fun options => options.find? key

section Queries

variable (directives : List Directive) (target key : String)

theorem mapsFor_eq_filterMap :
    mapsFor directives target = directives.filterMap (Directive.optionsFor? target) := by
  rw [mapsFor, payloadsFor, List.filterMap_map]
  induction directives with
  | nil => rfl
  | cons d directives ih =>
    by_cases addressed : d.target = target
    · rw [List.filter_cons_of_pos (by simpa using addressed), List.filterMap_cons,
        List.filterMap_cons, ih, Directive.optionsFor?, if_pos addressed]
      rfl
    · rw [List.filter_cons_of_neg (by simpa using addressed), List.filterMap_cons, ih,
        Directive.optionsFor?, if_neg addressed]

/-- The folded map has the keys that are set, in the order in which they are first set. -/
theorem keys_combinedMapFor :
    (combinedMapFor directives target).keys = distinct (keysSet directives target) := by
  rw [combinedMapFor_eq, OrderedMap.keys_ofList, mapsFor_eq_filterMap, List.map_flatMap]
  rfl

/-- Of several values the folded map keeps the last one. -/
theorem find?_combinedMapFor :
    (combinedMapFor directives target).find? key = (settings directives target key).getLast? := by
  induction directives with
  | nil => rfl
  | cons d directives ih =>
    have first : (combinedMapFor [d] target).find? key = (settings [d] target key).getLast? := by
      rw [combinedMapFor_eq, settings, mapsFor_eq_filterMap, List.filterMap_cons]
      cases d.optionsFor? target with
      | none => rfl
      | some options =>
        rw [List.filterMap_nil, List.flatMap_singleton, OrderedMap.ofList_entries]
        cases found : options.find? key <;> simp [found]
    have parts : settings (d :: directives) target key =
        settings [d] target key ++ settings directives target key := by
      rw [settings, ← List.singleton_append, List.filterMap_append, List.filterMap_append]
      rfl
    rw [← List.singleton_append, find?_combinedMapFor_append, ih, first, List.singleton_append,
      parts, List.getLast?_append]

theorem firstValueFor_eq :
    firstValueFor directives target key = (settings directives target key).head? := by
  rw [settings, ← mapsFor_eq_filterMap, List.head?_filterMap]
  rfl

/-- A directive that sets a key gives it one value. -/
theorem length_settings :
    (settings directives target key).length = directives.countP (Directive.sets target key) := by
  rw [settings, List.filterMap_filterMap, List.length_filterMap_eq_countP]
  refine List.countP_congr fun d _ => ?_
  by_cases addressed : d.target = target
  · cases carried : d.payload with
    | text value => simp [Directive.optionsFor?, Directive.sets, addressed, carried]
    | options entries =>
      simp [Directive.optionsFor?, Directive.sets, addressed, carried, OrderedMap.contains_iff,
        OrderedMap.find?_isSome_iff]
  · simp [Directive.optionsFor?, Directive.sets, addressed]

/-- A list that is too short for two members has the same first and last one. -/
private theorem head?_eq_getLast? {α : Type} {xs : List α} (short : ¬2 ≤ xs.length) :
    xs.head? = xs.getLast? := by
  match xs with
  | [] => rfl
  | [x] => rfl
  | x :: y :: rest => exact absurd (Nat.le_add_left 2 rest.length) short

end Queries

/-- What the queries on options tell about a key of a target.

The folded map has exactly the keys that the option maps of the target set, each once and in the
order in which they are first set, and under every key the value from the last map that sets it. The
query for the first value gives the value from the first such map, and nothing exactly when the
folded map lacks the key. The collisions are the keys that at least two of the maps set, each once.
So the first value of a key is the one in the folded map unless the key is a collision. -/
theorem options_agree (directives : List Directive) (target key : String) :
    (combinedMapFor directives target).keys = (keysSet directives target).eraseDups ∧
    (combinedMapFor directives target).keys.Nodup ∧
    (combinedMapFor directives target).find? key = (settings directives target key).getLast? ∧
    firstValueFor directives target key = (settings directives target key).head? ∧
    (firstValueFor directives target key = none ↔
      key ∉ (combinedMapFor directives target).keys) ∧
    (collisions directives target).Nodup ∧
    (key ∈ collisions directives target ↔ 2 ≤ (settings directives target key).length) ∧
    (key ∉ collisions directives target →
      firstValueFor directives target key = (combinedMapFor directives target).find? key) := by
  have first := firstValueFor_eq directives target key
  have last := find?_combinedMapFor directives target key
  have collides : key ∈ collisions directives target ↔
      2 ≤ (settings directives target key).length := by
    rw [mem_collisions, length_settings]
  refine ⟨?_, OrderedMap.keys_nodup _, last, first, ?_, nodup_collisions _ _, collides, ?_⟩
  · rw [keys_combinedMapFor, distinct_eq_eraseDups]
  · rw [← OrderedMap.find?_isSome_iff, Bool.not_eq_true, Option.isSome_eq_false_iff, first, last,
      Option.isNone_iff_eq_none, List.head?_eq_none_iff, List.getLast?_eq_none_iff]
  · intro single
    rw [first, last]
    exact head?_eq_getLast? (mt collides.mpr single)

/-- Directives for two targets, with a text between the option maps. The limit is set three times,
the unit once, and the limit of the other target does not count. -/
def limits : List Directive :=
  let options (target : String) (named : target ≠ "") (entries : List (String × String)) :
      Directive := ⟨target, .options (.ofList entries), named⟩
  [options "quota" (by decide) [("limit", "1"), ("unit", "s")],
    ⟨"quota", .text "limit", by decide⟩,
    options "rate" (by decide) [("limit", "9")],
    options "quota" (by decide) [("limit", "3")],
    options "quota" (by decide) [("scope", "all"), ("limit", "5")]]

theorem options_agree_limits :
    "unit" ∉ collisions limits "quota" ∧
      firstValueFor limits "quota" "unit" = (combinedMapFor limits "quota").find? "unit" ∧
      (combinedMapFor limits "quota").keys = ["limit", "unit", "scope"] ∧
      "limit" ∈ collisions limits "quota" ∧
      firstValueFor limits "quota" "limit" = some "1" ∧
      (combinedMapFor limits "quota").find? "limit" = some "5" := by
  have single : "unit" ∉ collisions limits "quota" := by decide
  obtain ⟨keys, -, -, -, -, -, -, agree⟩ := options_agree limits "quota" "unit"
  obtain ⟨-, -, last, first, -, -, collides, -⟩ := options_agree limits "quota" "limit"
  exact ⟨single, agree single, keys.trans (by decide), collides.mpr (by decide),
    first.trans (by decide), last.trans (by decide)⟩

end Directives

end SchemaWeaver
