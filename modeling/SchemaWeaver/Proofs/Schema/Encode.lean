import SchemaWeaver.Proofs.Json.RoundTrip
import SchemaWeaver.Proofs.Schema.Tags
import SchemaWeaver.Schema.Decode
import SchemaWeaver.Schema.Encode

/-!
# Schemas as values

What a schema is written as passes the check for schemas and stands for the same schema: every
member is found under its name, and passes for the part of the node that it was written for. What is
written is also plain, so it can be put into a document and read back, unless a type definition has
an identifier with more digits than the reader converts.
-/

namespace SchemaWeaver

open SchemaWeaver.Check SchemaWeaver.Checked

section Encoded

theorem DirectivePayload.check_encode (payload : DirectivePayload) :
    Directive.checkPayload payload.encode = valid payload := by
  cases payload with
  | text value => rfl
  | options entries =>
    rw [encode, Directive.checkPayload, textMap_entries]
    · rfl
    · nofun

theorem Directive.check_encode (d : Directive) : Directive.check d.encode = valid d := by
  have target : checkTarget (.str d.target) = valid ⟨d.target, d.target_ne_empty⟩ :=
    dif_neg d.target_ne_empty
  rw [check, encode, model]
  exact seq_valid (map_valid _ (required_of_lookup rfl target))
    (optional_of_lookup rfl d.payload.check_encode) rfl

theorem Header.check_encode (h : Header) (others : Members) :
    Header.check (h.encode ++ others) = valid h := by
  rw [Header.check]
  refine seq_valid (seq_valid (map_valid _ (required_of_lookup rfl rfl))
    (optional_of_lookup rfl (text?_ofText? h.docs)) rfl) ?_ rfl
  exact optional_of_lookup rfl (listOf_map Directive.check_encode h.annotations)

theorem checkKind_of_lookup {kind : NodeKind} {members : Members}
    (found : members.lookup "kind" = some (.str kind.name)) :
    checkKind kind members = valid () := by
  refine optional_of_lookup found ?_
  simp [choice]

/-- What all nodes share passes together with the member that tells the kind. -/
theorem Header.checkKind_encode (h : Header) (kind : NodeKind) {others : Members}
    (found : (h.encode ++ others).lookup "kind" = some (.str kind.name)) :
    (Header.check (h.encode ++ others) <* checkKind kind (h.encode ++ others)) = valid h :=
  seqLeft_valid (h.check_encode others) (checkKind_of_lookup found)

theorem RecordField.check_encode (f : RecordField) : RecordField.check f.encode = valid f := by
  rw [check, encode, model]
  exact seq_valid (map_valid _ (f.toHeader.checkKind_encode .field rfl))
    (required_of_lookup rfl rfl) rfl

theorem Case.check_encode (c : Case) : Case.check c.encode = valid c := by
  rw [check, encode, model]
  exact seq_valid (map_valid _ (c.toHeader.checkKind_encode .variantCase rfl))
    (optional_of_lookup rfl (text?_ofText? c.typeRef)) rfl

theorem Parameter.check_encode (p : Parameter) : Parameter.check p.encode = valid p := by
  rw [check, encode, model]
  exact seq_valid (map_valid _ (required_of_lookup rfl rfl)) (required_of_lookup rfl rfl) rfl

theorem Function.check_encode (f : Function) : Function.check f.encode = valid f := by
  rw [check, encode, model]
  refine seq_valid (seq_valid (map_valid _ (f.toHeader.checkKind_encode .function rfl)) ?_ rfl)
    ?_ rfl
  · exact optional_of_lookup rfl (listOf_map Parameter.check_encode f.parameters)
  · exact optional_of_lookup rfl (text?_ofText? f.result)

/-- The tag of a type definition, which tells the members that it has. -/
def TypeBody.tag : TypeBody → TypeDefinition.Tag
  | record _ => .record
  | variant _ => .variant
  | enum _ => .enum
  | flags _ => .flags
  | resource _ => .resource

theorem TypeBody.kind_tag (body : TypeBody) : body.tag.kind = body.kind := by
  cases body <;> rfl

theorem texts_ofTexts (texts : List String) : listOf text (.ofTexts texts) = valid texts :=
  listOf_map (fun item : String => (rfl : text (.str item) = valid item)) texts

theorem TypeBody.check_encode (body : TypeBody) (h : Header) (id : Json) :
    TypeDefinition.checkBody
        (h.encode ++ [("type_id", id), body.kind.encode, body.encode]) body.tag =
      valid body := by
  cases body with
  | record fields =>
    exact map_valid _ (optional_of_lookup rfl (listOf_map RecordField.check_encode fields))
  | variant cases => exact map_valid _ (optional_of_lookup rfl (listOf_map Case.check_encode cases))
  | enum cases => exact map_valid _ (optional_of_lookup rfl (listOf_map Case.check_encode cases))
  | flags names => exact map_valid _ (optional_of_lookup rfl (texts_ofTexts names))
  | resource methods =>
    exact map_valid _ (optional_of_lookup rfl (listOf_map Function.check_encode methods))

theorem TypeDefinition.check_encode (t : TypeDefinition) :
    TypeDefinition.check t.encode = valid t := by
  have members : checkMembers t.body.tag (t.toHeader.encode ++ [("type_id", .int t.typeId),
      t.body.kind.encode, t.body.encode]) = valid t := by
    refine seq_valid (seq_valid (map_valid _ (t.toHeader.check_encode _)) ?_ rfl)
      (t.body.check_encode t.toHeader _) rfl
    refine seqLeft_valid (required_of_lookup rfl (natural_int t.typeId)) (checkKind_of_lookup ?_)
    rw [t.body.kind_tag]
    rfl
  have told : (t.toHeader.encode ++ [("type_id", .int t.typeId), t.body.kind.encode,
      t.body.encode]).lookup "kind" = some (.str (Tag.name t.body.tag)) := by
    rw [Tag.name, t.body.kind_tag]
    rfl
  exact check_eq_valid_iff.mpr ⟨_, t.body.tag, rfl, told, members⟩

theorem Interface.check_encode (i : Interface) : Interface.check i.encode = valid i := by
  rw [check, encode, model]
  refine seq_valid (seq_valid (seq_valid
    (map_valid _ (i.toHeader.checkKind_encode .interface rfl)) ?_ rfl) ?_ rfl) ?_ rfl
  · exact optional_of_lookup rfl (text?_ofText? i.package)
  · exact optional_of_lookup rfl (listOf_map TypeDefinition.check_encode i.types)
  · exact optional_of_lookup rfl (listOf_map Function.check_encode i.functions)

theorem World.check_encode (w : World) : World.check w.encode = valid w := by
  rw [check, encode, model]
  refine seq_valid (seq_valid (seq_valid (seq_valid (seq_valid
    (map_valid _ (w.toHeader.checkKind_encode .world rfl)) ?_ rfl) ?_ rfl) ?_ rfl) ?_ rfl) ?_ rfl
  · exact optional_of_lookup rfl (text?_ofText? w.package)
  · exact optional_of_lookup rfl (listOf_map Interface.check_encode w.imports)
  · exact optional_of_lookup rfl (listOf_map Interface.check_encode w.exports)
  · exact optional_of_lookup rfl (listOf_map TypeDefinition.check_encode w.types)
  · exact optional_of_lookup rfl (listOf_map Function.check_encode w.functions)

/-- What a schema is written as passes, and stands for this schema. -/
theorem Schema.check_encode (s : Schema) : Schema.check s.encode = valid s := by
  rw [check, encode, model]
  refine seq_valid (seq_valid (seq_valid (map_valid _ (optional_of_lookup rfl rfl)) ?_ rfl) ?_ rfl)
    ?_ rfl
  · exact required_of_lookup rfl rfl
  · exact optional_of_lookup rfl (listOf_map Interface.check_encode s.interfaces)
  · exact optional_of_lookup rfl (listOf_map World.check_encode s.worlds)

end Encoded

section Identifiers

/-- An identifier that the reader converts. -/
def TypeDefinition.Identifiable (t : TypeDefinition) : Prop := Json.Convertible t.typeId

def Interface.Identifiable (i : Interface) : Prop := ∀ t ∈ i.types, t.Identifiable

def World.Identifiable (w : World) : Prop :=
  (∀ i ∈ w.imports, i.Identifiable) ∧ (∀ i ∈ w.exports, i.Identifiable) ∧
    ∀ t ∈ w.types, t.Identifiable

/-- No type definition of the schema has an identifier that the reader refuses for its length. -/
def Schema.Identifiable (s : Schema) : Prop :=
  (∀ i ∈ s.interfaces, i.Identifiable) ∧ ∀ w ∈ s.worlds, w.Identifiable

end Identifiers

section Shapes

open Json

variable (room : Nat)

theorem plain_ofText? (value : Option String) : Plain room (ofText? value) := by
  cases value with
  | none => exact .null
  | some value => exact .str value

theorem plain_encodeList {α : Type} {encode : α → Json} {items : List α}
    (each : ∀ x ∈ items, Plain room (encode x)) : Plain (room + 1) (encodeList encode items) := by
  refine .arr fun element member => ?_
  obtain ⟨x, inside, rfl⟩ := List.mem_map.mp member
  exact each x inside

theorem DirectivePayload.plain_encode (payload : DirectivePayload) :
    Plain (room + 1) payload.encode := by
  cases payload with
  | text value => exact .str value
  | options entries =>
    refine .obj ?_ fun member inside => ?_
    · rw [List.map_map]
      exact entries.nodup_keys
    · obtain ⟨entry, -, rfl⟩ := List.mem_map.mp inside
      exact .str entry.2

theorem Directive.plain_encode (d : Directive) : Plain (room + 2) d.encode := by
  refine .obj (by decide : ["target", "payload"].Nodup) ?_
  rw [List.forall_mem_cons, List.forall_mem_singleton]
  exact ⟨.str d.target, d.payload.plain_encode room⟩

/-- A node is written with what all nodes share and with members of its own. -/
theorem Header.plain_node (h : Header) {others : Members}
    (names : (["name", "docs", "annotations"] ++ others.map Prod.fst).Nodup)
    (each : ∀ member ∈ others, Plain (room + 3) member.2) :
    Plain (room + 4) (obj (h.encode ++ others)) := by
  refine .obj names (List.forall_mem_append.mpr ⟨?_, each⟩)
  rw [Header.encode, List.forall_mem_cons, List.forall_mem_cons, List.forall_mem_singleton]
  exact ⟨.str h.name, plain_ofText? _ h.docs, plain_encodeList _ fun d _ => d.plain_encode room⟩

theorem RecordField.plain_encode (f : RecordField) : Plain (room + 4) f.encode := by
  refine f.toHeader.plain_node room
    (by decide : ["name", "docs", "annotations", "kind", "type_ref"].Nodup) ?_
  rw [List.forall_mem_cons, List.forall_mem_singleton]
  exact ⟨.str _, .str f.typeRef⟩

theorem Case.plain_encode (c : Case) : Plain (room + 4) c.encode := by
  refine c.toHeader.plain_node room
    (by decide : ["name", "docs", "annotations", "kind", "type_ref"].Nodup) ?_
  rw [List.forall_mem_cons, List.forall_mem_singleton]
  exact ⟨.str _, plain_ofText? _ c.typeRef⟩

theorem Parameter.plain_encode (p : Parameter) : Plain (room + 1) p.encode := by
  refine .obj (by decide : ["name", "type_ref"].Nodup) ?_
  rw [List.forall_mem_cons, List.forall_mem_singleton]
  exact ⟨.str p.name, .str p.typeRef⟩

theorem Function.plain_encode (f : Function) : Plain (room + 4) f.encode := by
  refine f.toHeader.plain_node room
    (by decide : ["name", "docs", "annotations", "kind", "params", "result"].Nodup) ?_
  rw [List.forall_mem_cons, List.forall_mem_cons, List.forall_mem_singleton]
  exact ⟨.str _, plain_encodeList _ fun p _ => p.plain_encode (room + 1), plain_ofText? _ f.result⟩

theorem TypeBody.plain_encode (body : TypeBody) : Plain (room + 5) body.encode.2 := by
  cases body with
  | record fields => exact plain_encodeList _ fun f _ => f.plain_encode room
  | variant cases => exact plain_encodeList _ fun c _ => c.plain_encode room
  | enum cases => exact plain_encodeList _ fun c _ => c.plain_encode room
  | flags names => exact plain_encodeList _ fun name _ => .str name
  | resource methods => exact plain_encodeList _ fun f _ => f.plain_encode room

theorem TypeBody.names_nodup (body : TypeBody) :
    ["name", "docs", "annotations", "type_id", "kind", body.encode.1].Nodup := by
  cases body <;> simp [encode]

theorem TypeDefinition.plain_encode {t : TypeDefinition} (short : t.Identifiable) :
    Plain (room + 6) t.encode := by
  refine t.toHeader.plain_node (room + 2) t.body.names_nodup ?_
  rw [List.forall_mem_cons, List.forall_mem_cons, List.forall_mem_singleton]
  exact ⟨.int short, .str _, t.body.plain_encode room⟩

theorem Interface.plain_encode {i : Interface} (short : i.Identifiable) :
    Plain (room + 8) i.encode := by
  refine i.toHeader.plain_node (room + 4)
    (by decide : ["name", "docs", "annotations", "kind", "package", "types", "functions"].Nodup) ?_
  rw [List.forall_mem_cons, List.forall_mem_cons, List.forall_mem_cons, List.forall_mem_singleton]
  exact ⟨.str _, plain_ofText? _ i.package,
    plain_encodeList _ fun t inside => TypeDefinition.plain_encode room (short t inside),
    plain_encodeList _ fun f _ => f.plain_encode (room + 2)⟩

theorem World.plain_encode {w : World} (short : w.Identifiable) : Plain (room + 10) w.encode := by
  obtain ⟨imports, exports, types⟩ := short
  refine w.toHeader.plain_node (room + 6) (by decide : ["name", "docs", "annotations", "kind",
    "package", "imports", "exports", "types", "functions"].Nodup) ?_
  rw [List.forall_mem_cons, List.forall_mem_cons, List.forall_mem_cons, List.forall_mem_cons,
    List.forall_mem_cons, List.forall_mem_singleton]
  exact ⟨.str _, plain_ofText? _ w.package,
    plain_encodeList _ fun i inside => Interface.plain_encode room (imports i inside),
    plain_encodeList _ fun i inside => Interface.plain_encode room (exports i inside),
    plain_encodeList _ fun t inside => TypeDefinition.plain_encode (room + 2) (types t inside),
    plain_encodeList _ fun f _ => f.plain_encode (room + 4)⟩

/-- A schema is written with twelve levels of nesting. -/
theorem Schema.plain_encode {s : Schema} (short : s.Identifiable) : Plain (room + 12) s.encode := by
  refine .obj (by decide : ["version", "package", "interfaces", "worlds"].Nodup) ?_
  rw [List.forall_mem_cons, List.forall_mem_cons, List.forall_mem_cons, List.forall_mem_singleton]
  exact ⟨.str s.version, .str s.package,
    plain_encodeList _ fun i inside => Interface.plain_encode (room + 2) (short.1 i inside),
    plain_encodeList _ fun w inside => World.plain_encode room (short.2 w inside)⟩

end Shapes

end SchemaWeaver
