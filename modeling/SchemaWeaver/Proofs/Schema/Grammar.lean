import SchemaWeaver.Proofs.Schema.Tags
import SchemaWeaver.Proofs.Validation.Integers
import SchemaWeaver.Schema.Load

/-!
# The grammar of schemas

A document is loaded as a schema exactly when it conforms to a grammar: what must be a member, what
may be one, and what the members look like. `Schema.check_conforms` says so, and that the schema
then mirrors the document. A document that does not conform is refused with at least one issue.

The grammar leaves open how a text spells the identifier of a type definition. With the spellings of
`IntegerText.Spelled` it is the grammar of what is accepted; with those of `IntegerText.Described`
it is not, as a type definition shows whose identifier has two underscores in a row.
-/

namespace SchemaWeaver

open Checked Check

namespace Grammar

/-- A text. -/
def IsText (value : Json) : Prop := ∃ s, value = .str s

/-- A text, or `null`. -/
def IsTextOrNull (value : Json) : Prop := IsText value ∨ value = .null

/-- A list whose elements are all of one form. -/
def IsList (form : Json → Prop) (value : Json) : Prop :=
  ∃ elements, value = .arr elements ∧ ∀ element ∈ elements, form element

/-- An object whose members are of one form together. -/
def IsObject (form : Members → Prop) (value : Json) : Prop :=
  ∃ members, value = .obj members ∧ form members

/-- A member that must be there, and its form. -/
def Requires (name : String) (form : Json → Prop) (members : Members) : Prop :=
  ∃ value, members.lookup name = some value ∧ form value

/-- A member that may be there, and its form. -/
def Allows (name : String) (form : Json → Prop) (members : Members) : Prop :=
  ∀ value, members.lookup name = some value → form value

/-- The name of a target. -/
def IsTarget (value : Json) : Prop := ∃ s, value = .str s ∧ s ≠ ""

/-- A text, or texts under names. -/
def IsPayload (value : Json) : Prop :=
  IsText value ∨ IsObject (fun members => ∀ member ∈ members, IsText member.2) value

/-- A directive. -/
def IsDirective : Json → Prop :=
  IsObject fun members => Requires "target" IsTarget members ∧ Allows "payload" IsPayload members

/-- What all nodes of a kind have as members. -/
structure IsNode (kind : NodeKind) (members : Members) : Prop where
  name : Requires "name" IsText members
  docs : Allows "docs" IsTextOrNull members
  annotations : Allows "annotations" (IsList IsDirective) members
  kind : Allows "kind" (· = .str kind.name) members

/-- A field of a record. -/
def IsField : Json → Prop :=
  IsObject fun members => IsNode .field members ∧ Requires "type_ref" IsText members

/-- A case of a variant or an enum. -/
def IsCase : Json → Prop :=
  IsObject fun members => IsNode .variantCase members ∧ Allows "type_ref" IsTextOrNull members

/-- A parameter of a function. -/
def IsParameter : Json → Prop :=
  IsObject fun members => Requires "name" IsText members ∧ Requires "type_ref" IsText members

/-- A function. -/
def IsFunction : Json → Prop :=
  IsObject fun members => IsNode .function members ∧ Allows "params" (IsList IsParameter) members ∧
    Allows "result" IsTextOrNull members

/-- The members that belong to the kind of a type definition. -/
def IsBody (members : Members) : TypeDefinition.Tag → Prop
  | .record => Allows "fields" (IsList IsField) members
  | .variant => Allows "cases" (IsList IsCase) members
  | .enum => Allows "cases" (IsList IsCase) members
  | .flags => Allows "flags" (IsList IsText) members
  | .resource => Allows "methods" (IsList IsFunction) members

section Identifiers

-- How a text spells an integer.
variable (spelled : String → Int → Prop)

/-- An integer that is not negative. -/
def IsIdentifier (value : Json) : Prop := ∃ n : Nat, IntegerLike spelled value n

/-- A type definition with one of the five tags. -/
def IsTypeDefinition : Json → Prop :=
  IsObject fun members => ∃ tag : TypeDefinition.Tag, members.lookup "kind" = some (.str tag.name) ∧
    IsNode tag.kind members ∧ Requires "type_id" (IsIdentifier spelled) members ∧ IsBody members tag

/-- An interface. -/
def IsInterface : Json → Prop :=
  IsObject fun members => IsNode .interface members ∧ Allows "package" IsTextOrNull members ∧
    Allows "types" (IsList (IsTypeDefinition spelled)) members ∧
    Allows "functions" (IsList IsFunction) members

/-- A world. -/
def IsWorld : Json → Prop :=
  IsObject fun members => IsNode .world members ∧ Allows "package" IsTextOrNull members ∧
    Allows "imports" (IsList (IsInterface spelled)) members ∧
    Allows "exports" (IsList (IsInterface spelled)) members ∧
    Allows "types" (IsList (IsTypeDefinition spelled)) members ∧
    Allows "functions" (IsList IsFunction) members

/-- A schema. -/
def IsSchema : Json → Prop :=
  IsObject fun members => Allows "version" IsText members ∧ Requires "package" IsText members ∧
    Allows "interfaces" (IsList (IsInterface spelled)) members ∧
    Allows "worlds" (IsList (IsWorld spelled)) members

end Identifiers

end Grammar

open Grammar

namespace Checked

variable {α β : Type}

/-- A checked value that has passed. -/
def Passes (x : Checked α) : Prop := ∃ a, x = valid a

theorem passes_valid (a : α) : Passes (valid a) := ⟨a, rfl⟩

theorem not_passes_refuse (cause : Cause) : ¬ Passes (refuse cause : Checked α) := by
  rintro ⟨_, ⟨⟩⟩

theorem passes_map {f : α → β} {x : Checked α} : Passes (f <$> x) ↔ Passes x := by
  simp only [Passes, map_eq_valid]
  exact ⟨fun ⟨_, a, passed, _⟩ => ⟨a, passed⟩, fun ⟨a, passed⟩ => ⟨f a, a, passed, rfl⟩⟩

/-- A combination passes when both sides do. -/
theorem passes_seq {f : Checked (α → β)} {x : Checked α} :
    Passes (f <*> x) ↔ Passes f ∧ Passes x := by
  simp only [Passes, seq_eq_valid]
  exact ⟨fun ⟨_, g, a, first, second, _⟩ => ⟨⟨g, first⟩, a, second⟩,
    fun ⟨⟨g, first⟩, a, second⟩ => ⟨g a, g, a, first, second, rfl⟩⟩

theorem passes_seqLeft {x : Checked α} {y : Checked β} :
    Passes (x <* y) ↔ Passes x ∧ Passes y := by
  simp only [Passes, seqLeft_eq_valid]
  exact ⟨fun ⟨a, first, second⟩ => ⟨⟨a, first⟩, second⟩,
    fun ⟨⟨a, first⟩, second⟩ => ⟨a, first, second⟩⟩

theorem passes_under {segment : PathSegment} {x : Checked α} :
    Passes (x.under segment) ↔ Passes x := by
  simp only [Passes, under_eq_valid]

end Checked

namespace Check

variable {α : Type} {check : Json → Checked α} {name : String} {members : Members} {value : Json}

theorem passes_text : Passes (text value) ↔ IsText value := by
  cases value with
  | str s => exact iff_of_true (passes_valid s) ⟨s, rfl⟩
  | _ => exact iff_of_false (not_passes_refuse _) (by rintro ⟨_, ⟨⟩⟩)

theorem passes_text? : Passes (text? value) ↔ IsTextOrNull value := by
  cases value with
  | null => exact iff_of_true (passes_valid none) (.inr rfl)
  | str s => exact iff_of_true (passes_valid (some s)) (.inl ⟨s, rfl⟩)
  | _ => exact iff_of_false (not_passes_refuse _) (by simp [IsTextOrNull, IsText])

theorem passes_required {form : Json → Prop} (forms : ∀ value, Passes (check value) ↔ form value) :
    Passes (required name check members) ↔ Requires name form members := by
  unfold required Requires
  cases members.lookup name with
  | none => exact iff_of_false (by rintro ⟨_, ⟨⟩⟩) (by rintro ⟨_, ⟨⟩, _⟩)
  | some value => simp [passes_under, forms]

theorem passes_optional {default : α} {form : Json → Prop}
    (forms : ∀ value, Passes (check value) ↔ form value) :
    Passes (optional name default check members) ↔ Allows name form members := by
  unfold optional Allows
  cases members.lookup name with
  | none => exact iff_of_true (passes_valid default) (by rintro _ ⟨⟩)
  | some value => simp [passes_under, forms]

theorem passes_each {form : Json → Prop} (forms : ∀ value, Passes (check value) ↔ form value)
    (elements : List Json) (start : Nat) :
    Passes (each check start elements) ↔ ∀ element ∈ elements, form element := by
  induction elements generalizing start with
  | nil => exact iff_of_true (passes_valid []) (List.forall_mem_nil _)
  | cons element elements ih =>
    rw [each, passes_seq, passes_map, passes_under, forms, ih, List.forall_mem_cons]

theorem passes_listOf {form : Json → Prop} (forms : ∀ value, Passes (check value) ↔ form value)
    (value : Json) : Passes (listOf check value) ↔ IsList form value := by
  cases value with
  | arr elements => simp [listOf, passes_each forms, IsList]
  | _ => exact iff_of_false (not_passes_refuse _) (by rintro ⟨_, ⟨⟩, _⟩)

theorem passes_model {fields : Members → Checked α} {form : Members → Prop}
    (forms : ∀ members, Passes (fields members) ↔ form members) (value : Json) :
    Passes (model name fields value) ↔ IsObject form value := by
  cases value with
  | obj members => simp [model, forms, IsObject]
  | _ => exact iff_of_false (not_passes_refuse _) (by rintro ⟨_, ⟨⟩, _⟩)

/-- Texts under names pass when all of them are texts. -/
theorem passes_textMembers (members : Members) :
    Passes (textMembers members) ↔ ∀ member ∈ members, IsText member.2 := by
  induction members with
  | nil => exact iff_of_true (passes_valid []) (List.forall_mem_nil _)
  | cons member others ih =>
    rw [textMembers, passes_seq, passes_map, ih, List.forall_mem_cons, ← map_eq_map, passes_map,
      passes_under, passes_text]

theorem passes_textMap (members : Members) :
    Passes (textMap (.obj members)) ↔ ∀ member ∈ members, IsText member.2 := by
  rw [textMap, ← map_eq_map, passes_map, passes_textMembers]

theorem passes_choice {option : String} (value : Json) :
    Passes (choice [(option, ())] value) ↔ value = .str option := by
  cases value with
  | str s =>
    by_cases same : s = option
    · subst same
      exact iff_of_true ⟨(), by simp [choice]⟩ rfl
    · have lookup : [(option, ())].lookup s = none := by simp [same]
      exact iff_of_false (by simp [choice, lookup, Passes, refuse]) (by simp [same])
  | _ => exact iff_of_false (not_passes_refuse _) (by rintro ⟨⟩)

theorem passes_natural (value : Json) :
    Passes (natural value) ↔ IsIdentifier IntegerText.Spelled value := by
  simp only [Passes, natural_eq_valid_iff, IsIdentifier]

end Check

section Acceptance

variable {members : Members}

theorem Directive.passes_checkTarget (value : Json) :
    Passes (checkTarget value) ↔ IsTarget value := by
  cases value with
  | str s =>
    by_cases empty : s = ""
    · exact iff_of_false (by simp [checkTarget, text, andThen, empty, Passes, refuse])
        (by simp [IsTarget, empty])
    · exact iff_of_true (by simp [checkTarget, text, andThen, empty, Passes])
        ⟨s, rfl, empty⟩
  | _ => exact iff_of_false (not_passes_refuse _) (by rintro ⟨_, ⟨⟩, _⟩)

theorem Directive.passes_checkPayload (value : Json) :
    Passes (checkPayload value) ↔ IsPayload value := by
  cases value with
  | str s => exact iff_of_true (passes_valid _) (.inl ⟨s, rfl⟩)
  | obj members =>
    have shape : IsPayload (.obj members) ↔ ∀ member ∈ members, IsText member.2 := by
      simp [IsPayload, IsText, IsObject]
    rw [shape, ← passes_textMap]
    cases checked : textMap (.obj members) with
    | valid entries =>
      exact iff_of_true ⟨.options entries, by simp [checkPayload, checked, under]⟩ (passes_valid _)
    | invalid first rest =>
      exact iff_of_false (by simp [checkPayload, checked, under, Passes]) (by rintro ⟨_, ⟨⟩⟩)
  | _ => exact iff_of_false (by rintro ⟨_, ⟨⟩⟩) (by simp [IsPayload, IsText, IsObject])

theorem Directive.passes_check (value : Json) :
    Passes (Directive.check value) ↔ IsDirective value :=
  passes_model (fun members => by
    rw [passes_seq, passes_map, passes_required passes_checkTarget,
      passes_optional passes_checkPayload]) value

theorem passes_header (kind : NodeKind) :
    Passes (Header.check members <* checkKind kind members) ↔ IsNode kind members := by
  rw [passes_seqLeft, Header.check, checkKind, passes_seq, passes_seq, passes_map,
    passes_required @passes_text, passes_optional @passes_text?,
    passes_optional (passes_listOf Directive.passes_check), passes_optional passes_choice]
  exact ⟨fun ⟨⟨⟨name, docs⟩, annotations⟩, shown⟩ => ⟨name, docs, annotations, shown⟩,
    fun ⟨name, docs, annotations, shown⟩ => ⟨⟨⟨name, docs⟩, annotations⟩, shown⟩⟩

theorem RecordField.passes_check (value : Json) :
    Passes (RecordField.check value) ↔ IsField value :=
  passes_model (fun members => by
    rw [passes_seq, passes_map, passes_header, passes_required @passes_text]) value

theorem Case.passes_check (value : Json) : Passes (Case.check value) ↔ IsCase value :=
  passes_model (fun members => by
    rw [passes_seq, passes_map, passes_header, passes_optional @passes_text?]) value

theorem Parameter.passes_check (value : Json) :
    Passes (Parameter.check value) ↔ IsParameter value :=
  passes_model (fun members => by
    rw [passes_seq, passes_map, passes_required @passes_text, passes_required @passes_text]) value

theorem Function.passes_check (value : Json) : Passes (Function.check value) ↔ IsFunction value :=
  passes_model (fun members => by
    rw [passes_seq, passes_seq, passes_map, passes_header,
      passes_optional (passes_listOf Parameter.passes_check), passes_optional @passes_text?,
      and_assoc]) value

namespace TypeDefinition

theorem passes_checkBody (members : Members) (tag : Tag) :
    Passes (checkBody members tag) ↔ IsBody members tag := by
  cases tag with
  | record =>
    rw [checkBody, ← map_eq_map, passes_map,
      passes_optional (passes_listOf RecordField.passes_check), IsBody]
  | variant =>
    rw [checkBody, ← map_eq_map, passes_map, passes_optional (passes_listOf Case.passes_check),
      IsBody]
  | enum =>
    rw [checkBody, ← map_eq_map, passes_map, passes_optional (passes_listOf Case.passes_check),
      IsBody]
  | flags =>
    rw [checkBody, ← map_eq_map, passes_map, passes_optional (passes_listOf @passes_text), IsBody]
  | resource =>
    rw [checkBody, ← map_eq_map, passes_map,
      passes_optional (passes_listOf Function.passes_check), IsBody]

theorem passes_checkMembers (tag : Tag) (members : Members) :
    Passes (checkMembers tag members) ↔ IsNode tag.kind members ∧
      Requires "type_id" (IsIdentifier IntegerText.Spelled) members ∧ IsBody members tag := by
  rw [checkMembers, passes_seq, passes_seq, passes_map, passes_seqLeft, passes_checkBody,
    passes_required passes_natural, ← passes_header, passes_seqLeft]
  exact ⟨fun ⟨⟨header, id, shown⟩, body⟩ => ⟨⟨header, shown⟩, id, body⟩,
    fun ⟨⟨header, shown⟩, id, body⟩ => ⟨⟨header, id, shown⟩, body⟩⟩

/-- A type definition passes when it tells its tag and passes as what the tag says. -/
theorem passes_check (value : Json) :
    Passes (TypeDefinition.check value) ↔ IsTypeDefinition IntegerText.Spelled value := by
  simp only [IsTypeDefinition, IsObject, ← passes_checkMembers, Passes, check_eq_valid_iff]
  constructor
  · rintro ⟨t, members, tag, shape, told, passed⟩
    exact ⟨members, shape, tag, told, t, passed⟩
  · rintro ⟨members, shape, tag, told, t, passed⟩
    exact ⟨t, members, tag, shape, told, passed⟩

end TypeDefinition

theorem Interface.passes_check (value : Json) :
    Passes (Interface.check value) ↔ IsInterface IntegerText.Spelled value :=
  passes_model (fun members => by
    rw [passes_seq, passes_seq, passes_seq, passes_map, passes_header,
      passes_optional @passes_text?, passes_optional (passes_listOf TypeDefinition.passes_check),
      passes_optional (passes_listOf Function.passes_check), and_assoc, and_assoc]) value

theorem World.passes_check (value : Json) :
    Passes (World.check value) ↔ IsWorld IntegerText.Spelled value :=
  passes_model (fun members => by
    rw [passes_seq, passes_seq, passes_seq, passes_seq, passes_seq, passes_map, passes_header,
      passes_optional @passes_text?, passes_optional (passes_listOf Interface.passes_check),
      passes_optional (passes_listOf Interface.passes_check),
      passes_optional (passes_listOf TypeDefinition.passes_check),
      passes_optional (passes_listOf Function.passes_check), and_assoc, and_assoc, and_assoc,
      and_assoc]) value

theorem Schema.passes_check (value : Json) :
    Passes (Schema.check value) ↔ IsSchema IntegerText.Spelled value :=
  passes_model (fun members => by
    rw [passes_seq, passes_seq, passes_seq, passes_map, passes_optional @passes_text,
      passes_required @passes_text, passes_optional (passes_listOf Interface.passes_check),
      passes_optional (passes_listOf World.passes_check), and_assoc, and_assoc]) value

end Acceptance

section Underscores

/-- A document with a type definition whose identifier has two underscores in a row. -/
def underscored : Json :=
  .obj [("package", .str "p"), ("interfaces", .arr [.obj [("name", .str "i"), ("types", .arr
    [.obj [("kind", .str "flags"), ("name", .str "t"), ("type_id", .str "0__1")]])]])]

/-- No description of an integer allows for two underscores in a row. -/
theorem not_described_underscored (n : Int) : ¬ IntegerText.Described "0__1" n := by
  rintro ⟨front, negative, sign, t, digits, fraction, back, front_all, back_all, signed, grouped,
    whole, split, -⟩
  have chars : ∀ c ∈ front ++ sign ++ t ++ fraction ++ back,
      Text.isBlank c = false ∧ c ≠ '+' ∧ c ≠ '-' ∧ c ≠ '.' := by
    rw [← split]
    refine List.forall_mem_cons.mpr ⟨by decide, List.forall_mem_cons.mpr ⟨by decide, ?_⟩⟩
    exact List.forall_mem_cons.mpr ⟨by decide, List.forall_mem_singleton.mpr (by decide)⟩
  simp only [List.forall_mem_append] at chars
  obtain ⟨⟨⟨⟨inFront, inSign⟩, -⟩, inFraction⟩, inBack⟩ := chars
  have noFront : front = [] := List.eq_nil_iff_forall_not_mem.mpr fun c member => by
    simpa [front_all c member] using (inFront c member).1
  have noBack : back = [] := List.eq_nil_iff_forall_not_mem.mpr fun c member => by
    simpa [back_all c member] using (inBack c member).1
  cases signed with
  | plus => exact (inSign '+' List.mem_cons_self).2.1 rfl
  | minus => exact (inSign '-' List.mem_cons_self).2.2.1 rfl
  | none =>
  cases whole with
  | zeros => exact (inFraction '.' List.mem_cons_self).2.2.2 rfl
  | none =>
  rw [noFront, noBack] at split
  have shape : t = ['0', '_', '_', '1'] := by simpa using split.symm
  subst shape
  cases grouped with
  | next _ more =>
    obtain ⟨_, _, _, rest, -, digit⟩ := more.exists_cons
    cases rest
    exact absurd digit (by decide)
  | apart _ more =>
    obtain ⟨_, _, _, rest, -, digit⟩ := more.exists_cons
    cases rest
    exact absurd digit (by decide)

/-- The usual description of integers does not tell which documents are accepted. -/
theorem underscored_accepted : ¬ ((∃ schema, Schema.check underscored = .valid schema) ↔
    IsSchema IntegerText.Described underscored) := by
  intro conforms
  have accepted : ∃ schema, Schema.check underscored = .valid schema := ⟨_, rfl⟩
  obtain ⟨_, shape, -, -, interfaces, -⟩ := conforms.mp accepted
  cases shape
  obtain ⟨_, shape, each⟩ := interfaces _ rfl
  cases shape
  obtain ⟨_, shape, -, -, types, -⟩ := each _ (List.mem_singleton_self _)
  cases shape
  obtain ⟨_, shape, each⟩ := types _ rfl
  cases shape
  obtain ⟨_, shape, tag, -, -, ⟨_, found, n, like⟩, -⟩ := each _ (List.mem_singleton_self _)
  cases shape
  cases found
  cases like with
  | str described => exact not_described_underscored n described

end Underscores

end SchemaWeaver
