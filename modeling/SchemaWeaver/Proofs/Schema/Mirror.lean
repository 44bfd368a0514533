import SchemaWeaver.Proofs.Schema.Grammar

/-!
# Schemas mirror their documents

What a conforming document is read as shows the same as the document: lists have the same elements
in the same order, a type definition has the members of its tag, what is absent has its default, and
payloads are texts or maps as they were. `Schema.check_conforms` puts this together with the grammar
of what is accepted and with what is told of a document that is not.
-/

namespace SchemaWeaver

open Checked Check Grammar

/-- A text and the value that shows it. -/
def TextMirrors (s : String) (value : Json) : Prop := value = .str s

/-- A text that may be absent, and the value that shows it. -/
def OptionMirrors (s : Option String) (value : Json) : Prop := value = .ofText? s

/-- A list that has an element for each element that a value lists, in the same order. -/
def ListMirrors {α : Type} (mirrors : α → Json → Prop) (items : List α) (value : Json) : Prop :=
  ∃ elements, value = .arr elements ∧ List.Forall₂ mirrors items elements

/-- What a member shows when it is there, and a default when it is not. -/
def Takes {α : Type} (name : String) (default : α) (mirrors : α → Json → Prop) (members : Members)
    (x : α) : Prop :=
  (members.lookup name = none ∧ x = default) ∨
    ∃ value, members.lookup name = some value ∧ mirrors x value

/-- A payload that is a text, or has the texts of an object under their names. When no name stands
twice, these are the same names and texts in the same order. -/
inductive DirectivePayload.Mirrors : DirectivePayload → Json → Prop
  | text (s : String) : Mirrors (.text s) (.str s)
  | options {texts : List (String × String)} {entries : OrderedMap String}
    (collected : entries = .ofList texts)
    (kept : (texts.map Prod.fst).Nodup → entries.entries = texts) :
    Mirrors (.options entries) (.obj (texts.map fun entry => (entry.1, .str entry.2)))

/-- A directive with the target and the payload of an object. -/
def Directive.Mirrors (d : Directive) (value : Json) : Prop :=
  ∃ members, value = .obj members ∧ members.lookup "target" = some (.str d.target) ∧
    Takes "payload" (.text "") DirectivePayload.Mirrors members d.payload

/-- What all nodes take from their objects. -/
structure Header.Mirrors (h : Header) (members : Members) : Prop where
  name : members.lookup "name" = some (.str h.name)
  docs : Takes "docs" none OptionMirrors members h.docs
  annotations : Takes "annotations" [] (ListMirrors Directive.Mirrors) members h.annotations

/-- A field with the type of an object. -/
def RecordField.Mirrors (f : RecordField) (value : Json) : Prop :=
  ∃ members, value = .obj members ∧ f.toHeader.Mirrors members ∧
    members.lookup "type_ref" = some (.str f.typeRef)

/-- A case, perhaps with the type of an object. -/
def Case.Mirrors (c : Case) (value : Json) : Prop :=
  ∃ members, value = .obj members ∧ c.toHeader.Mirrors members ∧
    Takes "type_ref" none OptionMirrors members c.typeRef

/-- A parameter with the name and the type of an object. -/
def Parameter.Mirrors (p : Parameter) (value : Json) : Prop :=
  ∃ members, value = .obj members ∧ members.lookup "name" = some (.str p.name) ∧
    members.lookup "type_ref" = some (.str p.typeRef)

/-- A function with the parameters and the result of an object. -/
def Function.Mirrors (f : Function) (value : Json) : Prop :=
  ∃ members, value = .obj members ∧ f.toHeader.Mirrors members ∧
    Takes "params" [] (ListMirrors Parameter.Mirrors) members f.parameters ∧
    Takes "result" none OptionMirrors members f.result

/-- The members that belong to the kind of a type definition. -/
def TypeBody.Mirrors (members : Members) : TypeBody → Prop
  | record fields => Takes "fields" [] (ListMirrors RecordField.Mirrors) members fields
  | variant cases => Takes "cases" [] (ListMirrors Case.Mirrors) members cases
  | enum cases => Takes "cases" [] (ListMirrors Case.Mirrors) members cases
  | flags names => Takes "flags" [] (ListMirrors TextMirrors) members names
  | resource methods => Takes "methods" [] (ListMirrors Function.Mirrors) members methods

/-- A type definition of the kind that an object tells, with its identifier and its members. -/
def TypeDefinition.Mirrors (t : TypeDefinition) (value : Json) : Prop :=
  ∃ members, value = .obj members ∧ t.toHeader.Mirrors members ∧
    members.lookup "kind" = some (.str t.body.kind.name) ∧
    (∃ id, members.lookup "type_id" = some id ∧ IntegerLike IntegerText.Spelled id t.typeId) ∧
    t.body.Mirrors members

/-- An interface with the declarations of an object. -/
def Interface.Mirrors (i : Interface) (value : Json) : Prop :=
  ∃ members, value = .obj members ∧ i.toHeader.Mirrors members ∧
    Takes "package" none OptionMirrors members i.package ∧
    Takes "types" [] (ListMirrors TypeDefinition.Mirrors) members i.types ∧
    Takes "functions" [] (ListMirrors Function.Mirrors) members i.functions

/-- A world with the interfaces and the declarations of an object. -/
def World.Mirrors (w : World) (value : Json) : Prop :=
  ∃ members, value = .obj members ∧ w.toHeader.Mirrors members ∧
    Takes "package" none OptionMirrors members w.package ∧
    Takes "imports" [] (ListMirrors Interface.Mirrors) members w.imports ∧
    Takes "exports" [] (ListMirrors Interface.Mirrors) members w.exports ∧
    Takes "types" [] (ListMirrors TypeDefinition.Mirrors) members w.types ∧
    Takes "functions" [] (ListMirrors Function.Mirrors) members w.functions

/-- A schema with the interfaces and worlds of an object. -/
def Schema.Mirrors (s : Schema) (value : Json) : Prop :=
  ∃ members, value = .obj members ∧ Takes "version" "1.0" TextMirrors members s.version ∧
    members.lookup "package" = some (.str s.package) ∧
    Takes "interfaces" [] (ListMirrors Interface.Mirrors) members s.interfaces ∧
    Takes "worlds" [] (ListMirrors World.Mirrors) members s.worlds

namespace Check

variable {α : Type} {check : Json → Checked α} {mirrors : α → Json → Prop} {name : String}
  {members : Members} {value : Json}

theorem mirrors_of_text {s : String} (passed : text value = valid s) : TextMirrors s value := by
  cases value <;> cases passed
  rfl

theorem mirrors_of_text? {s : Option String} (passed : text? value = valid s) :
    OptionMirrors s value := by
  cases value <;> cases passed <;> rfl

theorem mirrors_of_listOf {items : List α}
    (mirrored : ∀ {value x}, check value = valid x → mirrors x value)
    (passed : listOf check value = valid items) : ListMirrors mirrors items value := by
  obtain ⟨elements, rfl, each⟩ := listOf_eq_valid.mp passed
  exact ⟨elements, rfl, (each.imp fun _ _ => mirrored).flip⟩

theorem takes_of_optional {default x : α}
    (mirrored : ∀ {value x}, check value = valid x → mirrors x value)
    (passed : optional name default check members = valid x) :
    Takes name default mirrors members x := by
  unfold optional at passed
  split at passed
  · rename_i absent
    cases passed
    exact .inl ⟨absent, rfl⟩
  · rename_i value found
    exact .inr ⟨value, found, mirrored (under_eq_valid.mp passed)⟩

theorem lookup_of_required {s : String} (passed : required name text members = valid s) :
    members.lookup name = some (.str s) := by
  obtain ⟨value, found, shown⟩ := required_eq_valid passed
  rw [found, mirrors_of_text shown]

theorem eq_map_of_textMembers {texts : List (String × String)}
    (passed : textMembers members = valid texts) :
    members = texts.map fun entry => (entry.1, .str entry.2) := by
  induction members generalizing texts with
  | nil =>
    cases passed
    rfl
  | cons member others ih =>
    obtain ⟨_, rest, first, more, rfl⟩ := seq_eq_valid.mp passed
    obtain ⟨_, named, rfl⟩ := map_eq_valid.mp first
    obtain ⟨s, shown, rfl⟩ := map_eq_valid.mp named
    have shape : member.2 = .str s := mirrors_of_text (under_eq_valid.mp shown)
    rw [List.map_cons, ← ih more, ← shape]

end Check

section Mirrored

variable {members : Members} {value : Json}

theorem DirectivePayload.mirrors_of_check {payload : DirectivePayload}
    (passed : Directive.checkPayload value = valid payload) : payload.Mirrors value := by
  cases value with
  | str s =>
    cases passed
    exact .text s
  | obj members =>
    cases checked : textMap (.obj members) with
    | invalid first rest => simp [Directive.checkPayload, checked, under] at passed
    | valid entries =>
      have same : payload = .options entries := by
        simpa [Directive.checkPayload, checked, under] using passed.symm
      obtain ⟨texts, written, collected⟩ := map_eq_valid.mp checked
      subst same collected
      rw [eq_map_of_textMembers written]
      refine .options rfl fun distinct => ?_
      exact congrArg OrderedMap.entries (OrderedMap.ofList_entries ⟨texts, distinct⟩)
  | _ => cases passed

theorem Directive.mirrors_of_checkTarget {target : { target : String // target ≠ "" }}
    (passed : checkTarget value = valid target) : TextMirrors target.val value := by
  obtain ⟨s, shown, passed⟩ := andThen_eq_valid.mp passed
  split at passed
  · cases passed
  · cases passed
    exact mirrors_of_text shown

theorem Directive.mirrors_of_check {d : Directive} (passed : Directive.check value = valid d) :
    d.Mirrors value := by
  obtain ⟨members, rfl, toPayload⟩ := model_eq_valid.mp passed
  obtain ⟨_, payload, toTarget, paid, rfl⟩ := seq_eq_valid.mp toPayload
  obtain ⟨target, addressed, rfl⟩ := map_eq_valid.mp toTarget
  obtain ⟨shown, found, named⟩ := required_eq_valid addressed
  refine ⟨members, rfl, ?_, takes_of_optional DirectivePayload.mirrors_of_check paid⟩
  rw [found, mirrors_of_checkTarget named]

theorem Header.mirrors_of_check {h : Header} {kind : NodeKind}
    (passed : (Header.check members <* checkKind kind members) = valid h) : h.Mirrors members := by
  obtain ⟨_, annotations, toDocs, annotated, rfl⟩ := seq_eq_valid.mp (seqLeft_eq_valid.mp passed).1
  obtain ⟨_, docs, toName, documented, rfl⟩ := seq_eq_valid.mp toDocs
  obtain ⟨name, named, rfl⟩ := map_eq_valid.mp toName
  exact ⟨lookup_of_required named, takes_of_optional mirrors_of_text? documented,
    takes_of_optional (mirrors_of_listOf Directive.mirrors_of_check) annotated⟩

theorem RecordField.mirrors_of_check {f : RecordField}
    (passed : RecordField.check value = valid f) : f.Mirrors value := by
  obtain ⟨members, rfl, toType⟩ := model_eq_valid.mp passed
  obtain ⟨_, typeRef, toHeader, typed, rfl⟩ := seq_eq_valid.mp toType
  obtain ⟨header, headed, rfl⟩ := map_eq_valid.mp toHeader
  exact ⟨members, rfl, Header.mirrors_of_check headed, lookup_of_required typed⟩

theorem Case.mirrors_of_check {c : Case} (passed : Case.check value = valid c) :
    c.Mirrors value := by
  obtain ⟨members, rfl, toType⟩ := model_eq_valid.mp passed
  obtain ⟨_, typeRef, toHeader, typed, rfl⟩ := seq_eq_valid.mp toType
  obtain ⟨header, headed, rfl⟩ := map_eq_valid.mp toHeader
  exact ⟨members, rfl, Header.mirrors_of_check headed, takes_of_optional mirrors_of_text? typed⟩

theorem Parameter.mirrors_of_check {p : Parameter} (passed : Parameter.check value = valid p) :
    p.Mirrors value := by
  obtain ⟨members, rfl, toType⟩ := model_eq_valid.mp passed
  obtain ⟨_, typeRef, toName, typed, rfl⟩ := seq_eq_valid.mp toType
  obtain ⟨name, named, rfl⟩ := map_eq_valid.mp toName
  exact ⟨members, rfl, lookup_of_required named, lookup_of_required typed⟩

theorem Function.mirrors_of_check {f : Function} (passed : Function.check value = valid f) :
    f.Mirrors value := by
  obtain ⟨members, rfl, toResult⟩ := model_eq_valid.mp passed
  obtain ⟨_, result, toParameters, resulted, rfl⟩ := seq_eq_valid.mp toResult
  obtain ⟨_, parameters, toHeader, parametrised, rfl⟩ := seq_eq_valid.mp toParameters
  obtain ⟨header, headed, rfl⟩ := map_eq_valid.mp toHeader
  exact ⟨members, rfl, Header.mirrors_of_check headed,
    takes_of_optional (mirrors_of_listOf Parameter.mirrors_of_check) parametrised,
    takes_of_optional mirrors_of_text? resulted⟩

/-- The members of a type definition are of the kind that its tag says. -/
theorem TypeBody.mirrors_of_check {tag : TypeDefinition.Tag} {body : TypeBody}
    (passed : TypeDefinition.checkBody members tag = valid body) :
    body.kind = tag.kind ∧ body.Mirrors members := by
  cases tag with
  | record =>
    obtain ⟨fields, checked, rfl⟩ := map_eq_valid.mp passed
    exact ⟨rfl, takes_of_optional (mirrors_of_listOf RecordField.mirrors_of_check) checked⟩
  | variant =>
    obtain ⟨cases, checked, rfl⟩ := map_eq_valid.mp passed
    exact ⟨rfl, takes_of_optional (mirrors_of_listOf Case.mirrors_of_check) checked⟩
  | enum =>
    obtain ⟨cases, checked, rfl⟩ := map_eq_valid.mp passed
    exact ⟨rfl, takes_of_optional (mirrors_of_listOf Case.mirrors_of_check) checked⟩
  | flags =>
    obtain ⟨names, checked, rfl⟩ := map_eq_valid.mp passed
    exact ⟨rfl, takes_of_optional (mirrors_of_listOf mirrors_of_text) checked⟩
  | resource =>
    obtain ⟨methods, checked, rfl⟩ := map_eq_valid.mp passed
    exact ⟨rfl, takes_of_optional (mirrors_of_listOf Function.mirrors_of_check) checked⟩

theorem TypeDefinition.mirrors_of_check {t : TypeDefinition}
    (passed : TypeDefinition.check value = valid t) : t.Mirrors value := by
  obtain ⟨members, tag, rfl, told, checked⟩ := check_eq_valid_iff.mp passed
  obtain ⟨_, body, toId, bodied, rfl⟩ := seq_eq_valid.mp checked
  obtain ⟨_, id, toHeader, identified, rfl⟩ := seq_eq_valid.mp toId
  obtain ⟨header, headed, rfl⟩ := map_eq_valid.mp toHeader
  obtain ⟨identified, kind⟩ := seqLeft_eq_valid.mp identified
  obtain ⟨shown, found, natural⟩ := required_eq_valid identified
  obtain ⟨sameKind, mirrored⟩ := TypeBody.mirrors_of_check bodied
  refine ⟨members, rfl, Header.mirrors_of_check (seqLeft_eq_valid.mpr ⟨headed, kind⟩), ?_,
    ⟨shown, found, natural_eq_valid_iff.mp natural⟩, mirrored⟩
  rw [told, sameKind, Tag.name]

theorem Interface.mirrors_of_check {i : Interface} (passed : Interface.check value = valid i) :
    i.Mirrors value := by
  obtain ⟨members, rfl, toFunctions⟩ := model_eq_valid.mp passed
  obtain ⟨_, functions, toTypes, defined, rfl⟩ := seq_eq_valid.mp toFunctions
  obtain ⟨_, types, toPackage, typed, rfl⟩ := seq_eq_valid.mp toTypes
  obtain ⟨_, package, toHeader, packed, rfl⟩ := seq_eq_valid.mp toPackage
  obtain ⟨header, headed, rfl⟩ := map_eq_valid.mp toHeader
  exact ⟨members, rfl, Header.mirrors_of_check headed, takes_of_optional mirrors_of_text? packed,
    takes_of_optional (mirrors_of_listOf TypeDefinition.mirrors_of_check) typed,
    takes_of_optional (mirrors_of_listOf Function.mirrors_of_check) defined⟩

theorem World.mirrors_of_check {w : World} (passed : World.check value = valid w) :
    w.Mirrors value := by
  obtain ⟨members, rfl, toFunctions⟩ := model_eq_valid.mp passed
  obtain ⟨_, functions, toTypes, defined, rfl⟩ := seq_eq_valid.mp toFunctions
  obtain ⟨_, types, toExports, typed, rfl⟩ := seq_eq_valid.mp toTypes
  obtain ⟨_, exports, toImports, exported, rfl⟩ := seq_eq_valid.mp toExports
  obtain ⟨_, imports, toPackage, imported, rfl⟩ := seq_eq_valid.mp toImports
  obtain ⟨_, package, toHeader, packed, rfl⟩ := seq_eq_valid.mp toPackage
  obtain ⟨header, headed, rfl⟩ := map_eq_valid.mp toHeader
  exact ⟨members, rfl, Header.mirrors_of_check headed, takes_of_optional mirrors_of_text? packed,
    takes_of_optional (mirrors_of_listOf Interface.mirrors_of_check) imported,
    takes_of_optional (mirrors_of_listOf Interface.mirrors_of_check) exported,
    takes_of_optional (mirrors_of_listOf TypeDefinition.mirrors_of_check) typed,
    takes_of_optional (mirrors_of_listOf Function.mirrors_of_check) defined⟩

theorem Schema.mirrors_of_check {s : Schema} (passed : Schema.check value = valid s) :
    s.Mirrors value := by
  obtain ⟨members, rfl, toWorlds⟩ := model_eq_valid.mp passed
  obtain ⟨_, worlds, toInterfaces, wide, rfl⟩ := seq_eq_valid.mp toWorlds
  obtain ⟨_, interfaces, toPackage, faced, rfl⟩ := seq_eq_valid.mp toInterfaces
  obtain ⟨_, package, toVersion, packed, rfl⟩ := seq_eq_valid.mp toPackage
  obtain ⟨version, versioned, rfl⟩ := map_eq_valid.mp toVersion
  exact ⟨members, rfl, takes_of_optional mirrors_of_text versioned, lookup_of_required packed,
    takes_of_optional (mirrors_of_listOf Interface.mirrors_of_check) faced,
    takes_of_optional (mirrors_of_listOf World.mirrors_of_check) wide⟩

end Mirrored

namespace Schema

/-- A value passes as a schema exactly when it conforms to the grammar, with integers as they are
read. A document that conforms is loaded as a schema that mirrors it; any other is refused, with at
least one issue. -/
theorem check_conforms (value : Json) :
    ((∃ schema, Schema.check value = .valid schema) ↔ IsSchema IntegerText.Spelled value) ∧
      (∀ schema, Schema.check value = .valid schema → schema.Mirrors value ∧
        ∀ text, Json.parse text = .ok value → load text = .ok schema) ∧
      (¬ IsSchema IntegerText.Spelled value → ∃ first rest,
        Schema.check value = .invalid first rest ∧ ∀ text, Json.parse text = .ok value →
          load text = .error (.invalid first rest) ∧ (LoadError.invalid first rest).report? =
            some ("Schema validation failed", Issue.renderAll (first :: rest))) := by
  refine ⟨Schema.passes_check value, fun schema passed => ?_, fun other => ?_⟩
  · refine ⟨Schema.mirrors_of_check passed, fun text read => ?_⟩
    simp only [load, read, passed]
  · cases checked : Schema.check value with
    | valid schema => exact absurd ((Schema.passes_check value).mp ⟨schema, checked⟩) other
    | invalid first rest =>
      refine ⟨first, rest, rfl, fun text read => ⟨?_, rfl⟩⟩
      simp only [load, read, checked]

end Schema

end SchemaWeaver
