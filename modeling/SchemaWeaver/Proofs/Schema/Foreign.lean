import Mathlib.Logic.Relation
import SchemaWeaver.Proofs.Json.Limits
import SchemaWeaver.Proofs.Json.RoundTrip
import SchemaWeaver.Proofs.OrderedMap
import SchemaWeaver.Proofs.Schema.Tags
import SchemaWeaver.Schema.Load

/-!
# Foreign members and the order of members

A document may hold members that no model declares, and the members of an object may stand in any
order. Neither has an influence on what a document is loaded as, or on the issues that are told of
it. A single change is made in one object that stands where a model is expected, at any depth; the
check of a model only looks up the names that the model declares, so that a change is seen nowhere
from the outside.
-/

namespace SchemaWeaver

open Checked Check

/-- What objects in a document stand for. -/
inductive Model where
  | schema
  | interface
  | world
  | type
  | field
  | case
  | function
  | parameter
  | directive
  deriving DecidableEq, Repr

namespace TypeDefinition

/-- The name under which a type definition with a given tag has its own members. -/
def Tag.membersName : Tag → String
  | record => "fields"
  | variant => "cases"
  | enum => "cases"
  | flags => "flags"
  | resource => "methods"

end TypeDefinition

namespace Model

/-- The names that all nodes declare. -/
def nodeNames : List String := ["name", "docs", "annotations", "kind"]

/-- The names that a model declares in every object. -/
def names : Model → List String
  | schema => ["version", "package", "interfaces", "worlds"]
  | interface => nodeNames ++ ["package", "types", "functions"]
  | world => nodeNames ++ ["package", "imports", "exports", "types", "functions"]
  | type => nodeNames ++ ["type_id"]
  | field => nodeNames ++ ["type_ref"]
  | case => nodeNames ++ ["type_ref"]
  | function => nodeNames ++ ["params", "result"]
  | parameter => ["name", "type_ref"]
  | directive => ["target", "payload"]

/-- The names that a model declares in an object: a type definition declares one more by the tag
that it tells. -/
def declared : Model → Members → List String
  | type, members =>
    names type ++ ((TypeDefinition.tag? members).map TypeDefinition.Tag.membersName).toList
  | model, _ => names model

/-- The lists of models that a model has as members. -/
def parts : Model → List (String × Model)
  | schema => [("interfaces", interface), ("worlds", world)]
  | interface => [("annotations", directive), ("types", type), ("functions", function)]
  | world => [("annotations", directive), ("imports", interface), ("exports", interface),
      ("types", type), ("functions", function)]
  | type => [("annotations", directive), ("fields", field), ("cases", case), ("methods", function)]
  | field => [("annotations", directive)]
  | case => [("annotations", directive)]
  | function => [("annotations", directive), ("params", parameter)]
  | parameter => []
  | directive => []

/-- A change in one object that stands where a model is expected: it gets a member whose name the
model does not declare, or its members are put in another order, or an object inside it is
changed. -/
inductive Edit : Model → Json → Json → Prop
  | insert {model : Model} {before after : Members} {name : String} (value : Json)
    (undeclared : name ∉ model.declared (before ++ after)) :
    Edit model (.obj (before ++ after)) (.obj (before ++ (name, value) :: after))
  | permute {model : Model} {members members' : Members} (distinct : (members.map Prod.fst).Nodup)
    (order : members.Perm members') : Edit model (.obj members) (.obj members')
  | inside {model part : Model} {before after : Members} {name : String} {front back : List Json}
    {value value' : Json} (expected : model.parts.lookup name = some part)
    (change : Edit part value value') :
    Edit model (.obj (before ++ (name, .arr (front ++ value :: back)) :: after))
      (.obj (before ++ (name, .arr (front ++ value' :: back)) :: after))

/-- What a model is read as. -/
def Value : Model → Type
  | schema => Schema
  | interface => Interface
  | world => World
  | type => TypeDefinition
  | field => RecordField
  | case => Case
  | function => Function
  | parameter => Parameter
  | directive => Directive

/-- The check of a model. -/
def check : (model : Model) → Json → Checked model.Value
  | schema => Schema.check
  | interface => Interface.check
  | world => World.check
  | type => TypeDefinition.check
  | field => RecordField.check
  | case => Case.check
  | function => Function.check
  | parameter => Parameter.check
  | directive => Directive.check

/-- Two objects show a model the same under a name: the same value, or lists in which the elements
are read as the same. -/
def SameAt (model : Model) (members members' : Members) (name : String) : Prop :=
  match model.parts.lookup name with
  | none => members.lookup name = members'.lookup name
  | some part =>
    (members.lookup name).map (listOf part.check) = (members'.lookup name).map (listOf part.check)

end Model

section Lookups

theorem lookup_append_cons_of_ne {α : Type} {name key : String} (h : key ≠ name) (value : α)
    (before after : List (String × α)) :
    (before ++ (name, value) :: after).lookup key = (before ++ after).lookup key := by
  rw [List.lookup_append, List.lookup_append, lookup_cons_eq_ite, if_neg h]

/-- Where names do not repeat, their order does not matter for what is found. -/
theorem lookup_of_perm {α : Type} {entries entries' : List (String × α)}
    (distinct : (entries.map Prod.fst).Nodup) (order : entries.Perm entries') (key : String) :
    entries.lookup key = entries'.lookup key := by
  have distinct' : (entries'.map Prod.fst).Nodup := (order.map Prod.fst).nodup_iff.mp distinct
  refine Option.ext fun value => ?_
  have found : entries.lookup key = some value ↔ (key, value) ∈ entries :=
    OrderedMap.find?_eq_some_iff (m := ⟨entries, distinct⟩)
  have found' : entries'.lookup key = some value ↔ (key, value) ∈ entries' :=
    OrderedMap.find?_eq_some_iff (m := ⟨entries', distinct'⟩)
  rw [found, found', order.mem_iff]

end Lookups

namespace Checked

variable {α β : Type}

theorem map_congr {f : α → β} {x x' : Checked α} (same : x = x') : f <$> x = f <$> x' := by
  rw [same]

theorem seq_congr {f f' : Checked (α → β)} {x x' : Checked α} (first : f = f') (second : x = x') :
    f <*> x = f' <*> x' := by
  rw [first, second]

theorem seqLeft_congr {x x' : Checked α} {y y' : Checked β} (first : x = x') (second : y = y') :
    x <* y = x' <* y' := by
  rw [first, second]

end Checked

namespace Check

variable {α : Type} {name : String} {members members' : Members} {check : Json → Checked α}

theorem required_congr (same : members.lookup name = members'.lookup name) :
    required name check members = required name check members' := by
  rw [required, required, same]

theorem optional_congr {default : α}
    (same : (members.lookup name).map check = (members'.lookup name).map check) :
    optional name default check members = optional name default check members' := by
  unfold optional
  cases here : members.lookup name <;> cases there : members'.lookup name <;>
    simp_all

theorem each_congr {value value' : Json} (same : check value = check value') (back : List Json)
    (front : List Json) (start : Nat) :
    each check start (front ++ value :: back) = each check start (front ++ value' :: back) := by
  induction front generalizing start with
  | nil => rw [List.nil_append, List.nil_append, each, each, same]
  | cons first front ih => rw [List.cons_append, List.cons_append, each, each, ih]

end Check

namespace Model

variable {model : Model} {members members' : Members} {name : String}

section Congruence

/-- A model sees the same in two objects when it does so under every name that it declares. -/
def SameShown (model : Model) (members members' : Members) : Prop :=
  ∀ name ∈ model.declared members, model.SameAt members members' name

theorem names_subset_declared : model.names ⊆ model.declared members := by
  cases model with
  | type => exact List.subset_append_left _ _
  | _ => exact List.Subset.refl _

theorem SameAt.lookup_eq (same : model.SameAt members members' name)
    (plain : model.parts.lookup name = none) : members.lookup name = members'.lookup name := by
  rwa [SameAt, plain] at same

theorem SameAt.list_eq {part : Model} {default : List part.Value}
    (same : model.SameAt members members' name) (expected : model.parts.lookup name = some part) :
    optional name default (listOf part.check) members =
      optional name default (listOf part.check) members' := by
  rw [SameAt, expected] at same
  exact optional_congr same

section Members

variable {α : Type} {check : Json → Checked α}

theorem SameShown.lookup_eq (same : model.SameShown members members')
    (declares : name ∈ model.names) (plain : model.parts.lookup name = none) :
    members.lookup name = members'.lookup name :=
  (same name (names_subset_declared declares)).lookup_eq plain

theorem SameShown.required_eq (same : model.SameShown members members') (name : String)
    (declares : name ∈ model.names := by decide)
    (plain : model.parts.lookup name = none := by rfl) :
    required name check members = required name check members' :=
  required_congr (same.lookup_eq declares plain)

theorem SameShown.optional_eq {default : α} (same : model.SameShown members members')
    (name : String) (declares : name ∈ model.names := by decide)
    (plain : model.parts.lookup name = none := by rfl) :
    optional name default check members = optional name default check members' :=
  optional_congr (congrArg (Option.map check) (same.lookup_eq declares plain))

theorem SameShown.list_eq (same : model.SameShown members members') (name : String)
    (part : Model) {default : List part.Value} (declares : name ∈ model.names := by decide)
    (expected : model.parts.lookup name = some part := by rfl) :
    optional name default (listOf part.check) members =
      optional name default (listOf part.check) members' :=
  (same name (names_subset_declared declares)).list_eq expected

end Members

/-- The models that are nodes. -/
def isNode : Model → Bool
  | schema | parameter | directive => false
  | _ => true

theorem nodeNames_subset_names (node : model.isNode = true) : nodeNames ⊆ model.names := by
  cases model with
  | schema | parameter | directive => cases node
  | _ => exact List.subset_append_left _ _

theorem header_congr (node : model.isNode = true) (same : model.SameShown members members') :
    Header.check members = Header.check members' := by
  have declares : nodeNames ⊆ model.names := nodeNames_subset_names node
  have plain : model.parts.lookup "name" = none ∧ model.parts.lookup "docs" = none ∧
      model.parts.lookup "annotations" = some directive := by
    cases model with
    | schema | parameter | directive => cases node
    | _ => exact ⟨rfl, rfl, rfl⟩
  exact seq_congr (seq_congr (map_congr
    (same.required_eq "name" (declares (by decide)) plain.1))
    (same.optional_eq "docs" (declares (by decide)) plain.2.1))
    (same.list_eq "annotations" directive (declares (by decide)) plain.2.2)

theorem lookup_kind_congr (node : model.isNode = true) (same : model.SameShown members members') :
    members.lookup "kind" = members'.lookup "kind" := by
  refine same.lookup_eq (nodeNames_subset_names node (by decide)) ?_
  cases model with
  | schema | parameter | directive => cases node
  | _ => rfl

theorem checkKind_congr (node : model.isNode = true) (same : model.SameShown members members')
    (kind : NodeKind) : checkKind kind members = checkKind kind members' :=
  optional_congr (congrArg _ (lookup_kind_congr node same))

/-- The tag decides which list of members a type definition has. -/
theorem checkBody_congr (same : type.SameShown members members')
    {tag : TypeDefinition.Tag} (told : TypeDefinition.tag? members = some tag) :
    TypeDefinition.checkBody members tag = TypeDefinition.checkBody members' tag := by
  have shown : type.SameAt members members' tag.membersName :=
    same tag.membersName (by simp [declared, told])
  cases tag with
  | record => exact congrArg (Checked.map TypeBody.record) (shown.list_eq rfl)
  | variant => exact congrArg (Checked.map TypeBody.variant) (shown.list_eq rfl)
  | enum => exact congrArg (Checked.map TypeBody.enum) (shown.list_eq rfl)
  | flags =>
    exact congrArg (Checked.map TypeBody.flags) (optional_congr (congrArg _ (shown.lookup_eq rfl)))
  | resource => exact congrArg (Checked.map TypeBody.resource) (shown.list_eq rfl)

theorem checkMembers_congr (same : type.SameShown members members')
    {tag : TypeDefinition.Tag} (told : TypeDefinition.tag? members = some tag) :
    TypeDefinition.checkMembers tag members = TypeDefinition.checkMembers tag members' :=
  seq_congr (seq_congr (map_congr
    (header_congr rfl same))
    (seqLeft_congr (same.required_eq "type_id") (checkKind_congr rfl same tag.kind)))
    (checkBody_congr same told)

/-- A type definition first tells its tag, which decides on the members it is checked for. -/
theorem type_congr (same : type.SameShown members members') :
    TypeDefinition.check (.obj members) = TypeDefinition.check (.obj members') := by
  have kinds : members.lookup "kind" = members'.lookup "kind" := lookup_kind_congr rfl same
  have tags : TypeDefinition.tag? members' = TypeDefinition.tag? members := by
    rw [TypeDefinition.tag?, TypeDefinition.tag?, kinds]
  cases told : TypeDefinition.tag? members with
  | none =>
    rw [TypeDefinition.check_of_untold told, TypeDefinition.check_of_untold (tags.trans told),
      kinds]
  | some tag =>
    rw [TypeDefinition.check_of_tag told, TypeDefinition.check_of_tag (tags.trans told),
      checkMembers_congr same told]

/-- The check of a model sees nothing but what the model declares. -/
theorem check_congr (same : model.SameShown members members') :
    model.check (.obj members) = model.check (.obj members') := by
  cases model with
  | schema =>
    exact seq_congr (seq_congr (seq_congr (map_congr
      (same.optional_eq "version"))
      (same.required_eq "package"))
      (same.list_eq "interfaces" interface))
      (same.list_eq "worlds" world)
  | interface =>
    exact seq_congr (seq_congr (seq_congr (map_congr
      (seqLeft_congr (header_congr rfl same) (checkKind_congr rfl same .interface)))
      (same.optional_eq "package"))
      (same.list_eq "types" type))
      (same.list_eq "functions" function)
  | world =>
    exact seq_congr (seq_congr (seq_congr (seq_congr (seq_congr (map_congr
      (seqLeft_congr (header_congr rfl same) (checkKind_congr rfl same .world)))
      (same.optional_eq "package"))
      (same.list_eq "imports" interface))
      (same.list_eq "exports" interface))
      (same.list_eq "types" type))
      (same.list_eq "functions" function)
  | type => exact type_congr same
  | field =>
    exact seq_congr (map_congr
      (seqLeft_congr (header_congr rfl same) (checkKind_congr rfl same .field)))
      (same.required_eq "type_ref")
  | case =>
    exact seq_congr (map_congr
      (seqLeft_congr (header_congr rfl same) (checkKind_congr rfl same .variantCase)))
      (same.optional_eq "type_ref")
  | function =>
    exact seq_congr (seq_congr (map_congr
      (seqLeft_congr (header_congr rfl same) (checkKind_congr rfl same .function)))
      (same.list_eq "params" parameter))
      (same.optional_eq "result")
  | parameter =>
    exact seq_congr (map_congr
      (same.required_eq "name"))
      (same.required_eq "type_ref")
  | directive =>
    exact seq_congr (map_congr
      (same.required_eq "target"))
      (same.optional_eq "payload")

end Congruence

section Edits

theorem SameAt.of_lookup_eq (same : members.lookup name = members'.lookup name) :
    model.SameAt members members' name := by
  unfold SameAt
  split
  · exact same
  · rw [same]

/-- A list is shown the same when one of its elements is exchanged for one that is read the same. -/
theorem SameAt.inside {part : Model} {value value' : Json}
    (expected : model.parts.lookup name = some part) (same : part.check value = part.check value')
    (before after : Members) (front back : List Json) (key : String) :
    model.SameAt (before ++ (name, .arr (front ++ value :: back)) :: after)
      (before ++ (name, .arr (front ++ value' :: back)) :: after) key := by
  by_cases here : key = name
  · subst here
    rw [SameAt, expected]
    dsimp only
    rw [List.lookup_append, List.lookup_append, List.lookup_cons_self, List.lookup_cons_self]
    cases before.lookup key with
    | some _ => rfl
    | none => exact congrArg some (each_congr same back front 0)
  · refine SameAt.of_lookup_eq ?_
    rw [lookup_append_cons_of_ne here, lookup_append_cons_of_ne here]

/-- One change is not seen by the check of the model that it is made in, nor by the checks of the
models around it. -/
theorem Edit.check_eq {value value' : Json} (edit : Edit model value value') :
    model.check value = model.check value' := by
  induction edit with
  | insert value undeclared =>
    refine check_congr fun key declares => SameAt.of_lookup_eq ?_
    rw [lookup_append_cons_of_ne]
    rintro rfl
    exact undeclared declares
  | permute distinct order =>
    exact check_congr fun name _ => SameAt.of_lookup_eq (lookup_of_perm distinct order name)
  | inside expected _ ih =>
    exact check_congr fun name _ => SameAt.inside expected ih _ _ _ _ name

/-- Any number of changes, made or undone, are not seen. -/
theorem check_eq_of_edits {value value' : Json} (edits : Relation.EqvGen model.Edit value value') :
    model.check value = model.check value' := by
  induction edits with
  | rel _ _ edit => exact edit.check_eq
  | refl _ => rfl
  | symm _ _ _ ih => exact ih.symm
  | trans _ _ _ _ _ first second => exact first.trans second

end Edits

end Model

namespace Schema

/-- What a document is loaded as, and the issues that are told of it when it is refused, stay the
same under any changes of foreign members and of the order of members. The members of every object
that is read have names of their own, so that they may be put in any order. -/
theorem load_ignores_foreign {text text' : String} {value value' : Json}
    (read : Json.parse text = .ok value) (read' : Json.parse text' = .ok value')
    (edits : Relation.EqvGen (Model.Edit .schema) value value') :
    value.Tidy ∧ Schema.check value = Schema.check value' ∧ load text = load text' := by
  have same : Schema.check value = Schema.check value' := Model.check_eq_of_edits edits
  refine ⟨Json.tidy_of_parse read, same, ?_⟩
  rw [load, load, read, read']
  dsimp only
  rw [same]

/-- A world without a name is refused in the same words when its members change places, it has a
note, and the worlds stand in front of the package. -/
theorem load_ignores_foreign_nameless :
    load (Json.pretty (.obj [("package", .str "p"),
      ("worlds", .arr [.obj [("kind", .str "w"), ("docs", .null)]])])) =
    load (Json.pretty (.obj [("worlds", .arr [.obj [("docs", .null), ("note", .int 0),
      ("kind", .str "w")]]), ("package", .str "p")])) := by
  have turned : Model.Edit .world (.obj [("kind", .str "w"), ("docs", .null)])
      (.obj [("docs", .null), ("kind", .str "w")]) :=
    .permute (by decide) (.swap _ _ _)
  have noted : Model.Edit .world (.obj [("docs", .null), ("kind", .str "w")])
      (.obj [("docs", .null), ("note", .int 0), ("kind", .str "w")]) :=
    @Model.Edit.insert .world [_] [_] "note" (.int 0) (by decide)
  have inside {world world' : Json} (edit : Model.Edit .world world world') :
      Model.Edit .schema (.obj [("package", .str "p"), ("worlds", .arr [world])])
        (.obj [("package", .str "p"), ("worlds", .arr [world'])]) :=
    @Model.Edit.inside .schema .world [_] [] "worlds" [] [] _ _ rfl edit
  have worldsFirst (world : Json) :
      Model.Edit .schema (.obj [("package", .str "p"), ("worlds", .arr [world])])
        (.obj [("worlds", .arr [world]), ("package", .str "p")]) :=
    .permute (show ["package", "worlds"].Nodup by decide) (.swap _ _ _)
  have edits := Relation.EqvGen.trans _ _ _ (.rel _ _ (inside turned))
    (.trans _ _ _ (.rel _ _ (inside noted)) (.rel _ _ (worldsFirst _)))
  have zero : Json.Plain 987 (.int 0) := .int (show 1 ≤ 4300 by decide)
  have world : Json.Plain 988 (.obj [("kind", .str "w"), ("docs", .null)]) :=
    .obj (by decide) (by simp [Json.Plain.str, Json.Plain.null])
  have world' : Json.Plain 988 (.obj [("docs", .null), ("note", .int 0), ("kind", .str "w")]) :=
    .obj (by decide) (by simp [Json.Plain.str, Json.Plain.null, zero])
  have plain : Json.Plain Json.maxDepth (.obj [("package", .str "p"), ("worlds", .arr
      [.obj [("kind", .str "w"), ("docs", .null)]])]) :=
    .obj (by decide) (by simp [Json.Plain.str, Json.Plain.arr, world])
  have plain' : Json.Plain Json.maxDepth (.obj [("worlds", .arr
      [.obj [("docs", .null), ("note", .int 0), ("kind", .str "w")]]), ("package", .str "p")]) :=
    .obj (by decide) (by simp [Json.Plain.str, Json.Plain.arr, world'])
  exact (load_ignores_foreign (Json.parse_pretty plain) (Json.parse_pretty plain') edits).2.2

end Schema

end SchemaWeaver
