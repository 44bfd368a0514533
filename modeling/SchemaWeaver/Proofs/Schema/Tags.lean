import SchemaWeaver.Proofs.Validation.Scalar
import SchemaWeaver.Schema.Decode

/-!
# Type definitions by their tags

A type definition tells its tag under `kind`, wherever this stands among its members, and is then
checked for what the tag says. Without a tag it is refused, whatever its other members are.
-/

namespace SchemaWeaver.TypeDefinition

open Checked

variable {members : Members} {tag : Tag}

theorem Tag.ofName?_name (tag : Tag) : ofName? tag.name = some tag := by
  cases tag <;> decide

theorem Tag.ofName?_eq_some_iff {name : String} : ofName? name = some tag ↔ name = tag.name := by
  refine ⟨fun found => ?_, fun same => same ▸ tag.ofName?_name⟩
  exact (beq_iff_eq.mp (List.find?_some (p := fun tag => Tag.name tag == name) found)).symm

/-- The tag that the members of a type definition tell. -/
def tag? (members : Members) : Option Tag :=
  match members.lookup "kind" with
  | some (.str name) => Tag.ofName? name
  | _ => none

theorem tag?_eq_some_iff :
    tag? members = some tag ↔ members.lookup "kind" = some (.str tag.name) := by
  unfold tag?
  split
  · rename_i name found
    rw [found, Tag.ofName?_eq_some_iff, Option.some.injEq, Json.str.injEq]
  · rename_i other
    exact iff_of_false nofun (other tag.name)

/-- What is wrong with a type definition that tells no tag, by what it shows as its kind. -/
def untoldTag : Option Json → Cause
  | none => .missingTag "kind"
  | some shown => .unknownTag shown.display "kind" (Tag.all.map Tag.name)

theorem check_of_tag (told : tag? members = some tag) :
    check (.obj members) = (checkMembers tag members).under (.key tag.name) := by
  rw [tag?_eq_some_iff] at told
  unfold check
  dsimp only
  rw [told]
  dsimp only
  rw [Tag.ofName?_name]

theorem check_of_untold (untold : tag? members = none) :
    check (.obj members) = refuse (untoldTag (members.lookup "kind")) := by
  unfold tag? at untold
  unfold check
  cases shown : members.lookup "kind" with
  | none => simp only [shown, untoldTag]
  | some value =>
    rw [shown] at untold
    cases value <;> simp_all [untoldTag]

/-- A type definition passes as what its tag says. -/
theorem check_eq_valid_iff {value : Json} {t : TypeDefinition} :
    check value = valid t ↔ ∃ members tag, value = .obj members ∧
      members.lookup "kind" = some (.str (Tag.name tag)) ∧ checkMembers tag members = valid t := by
  constructor
  · intro passed
    cases value with
    | obj members =>
      cases told : tag? members with
      | none => rw [check_of_untold told] at passed; cases passed
      | some tag =>
        rw [check_of_tag told, under_eq_valid] at passed
        exact ⟨members, tag, rfl, tag?_eq_some_iff.mp told, passed⟩
    | _ => cases passed
  · rintro ⟨members, tag, rfl, told, passed⟩
    rw [check_of_tag (tag?_eq_some_iff.mpr told), under_eq_valid, passed]

end SchemaWeaver.TypeDefinition
