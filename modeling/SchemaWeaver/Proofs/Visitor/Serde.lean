import SchemaWeaver.Proofs.Visitor.Attribute

/-!
# Serialization attributes tell their payload

The attribute of a type is read back as exactly the options of the payload. The attribute of a field
or a case is read back as the new name, if one is given, and the flags that are set. A payload that
does not fit is refused as a whole.
-/

namespace SchemaWeaver

open Text

namespace Attribute

variable {p : Payload} {keys : List String}

/-- What the attributes of a type say of the payload for which they are written. -/
def TellContainer (keys : List String) (p : Payload) (attributes : List String) : Prop :=
  (p.options.entries = [] ∧ attributes = []) ∨
  ∃ text arguments, p.options.entries ≠ [] ∧ attributes = [text] ∧
    Spells text (.applied "serde" arguments) ∧ TellOptions keys p arguments

theorem serdeArguments?_cases (keys : List String) (p : Payload) :
    (Strays keys p ∧ serdeArguments? keys p = none) ∨
    (¬ Strays keys p ∧ serdeArguments? keys p = some (assignments keys p)) := by
  have regular : (p.values.all isBlankText && p.optionsWithin keys) = true ↔ ¬ Strays keys p := by
    rw [Bool.and_eq_true, p.all_isBlankText_iff, not_strays_iff]
  by_cases strays : Strays keys p
  · exact .inl ⟨strays, if_neg fun h => regular.mp h strays⟩
  · exact .inr ⟨strays, if_pos (regular.mpr strays)⟩

theorem tellContainer (words : ∀ key ∈ keys, IsWord key) (nodup : keys.Nodup)
    (regular : ¬ Strays keys p) :
    TellContainer keys p
      (if (assignments keys p).isEmpty then [] else [call "serde" (assignments keys p)]) := by
  obtain ⟨-, known⟩ := not_strays_iff.mp regular
  by_cases options : p.options.entries = []
  · rw [(assignments_eq_nil_iff nodup known).mpr options]
    exact .inl ⟨options, rfl⟩
  · obtain ⟨arguments, spells, tell⟩ :=
      spells_assignments (by decide : IsWord "serde") words nodup known options
    have some : ¬ (assignments keys p).isEmpty = true := by
      rwa [List.isEmpty_iff, assignments_eq_nil_iff nodup known]
    rw [if_neg some]
    exact .inr ⟨_, arguments, options, rfl, spells, tell⟩

/-- Whether a flag is set. -/
def isSet (p : Payload) (key : String) : Bool :=
  (p.get? key).any fun value => value.toLower == "true"

/-- A flag whose text spells no truth value. -/
def IsUnclear (p : Payload) (key : String) : Prop :=
  ∃ value, p.get? key = some value ∧ value.toLower ∉ ["true", "false"]

/-- What the attribute of a field or a case has to say. -/
def memberArguments (p : Payload) : List Argument :=
  ((p.get? "rename").map fun value => ⟨"rename", some value⟩).toList ++
    (serdeFlags.filter (isSet p)).map fun key => ⟨key, none⟩

/-- A payload that no field or case understands. -/
def Misfits (p : Payload) : Prop :=
  Strays ["rename", "skip", "default"] p ∨ ∃ key ∈ ["skip", "default"], IsUnclear p key

theorem spelledFlag?_cases (value : String) :
    (value.toLower = "true" ∧ spelledFlag? value = some true) ∨
    (value.toLower = "false" ∧ spelledFlag? value = some false) ∨
    (value.toLower ∉ ["true", "false"] ∧ spelledFlag? value = none) := by
  have lowered : String.ofList (value.toList.map Char.toLower) = value.toLower := by
    rw [← String.toList_inj, String.toList_ofList]
    exact String.toList_map.symm
  rw [spelledFlag?, lowered]
  by_cases yes : value.toLower = "true"
  · exact .inl ⟨yes, if_pos yes⟩
  · by_cases no : value.toLower = "false"
    · exact .inr (.inl ⟨no, (if_neg yes).trans (if_pos no)⟩)
    · exact .inr (.inr ⟨by simp [yes, no], (if_neg yes).trans (if_neg no)⟩)

theorem isSet_eq (p : Payload) :
    isSet p = fun key => (p.get? key).bind spelledFlag? == some true := by
  funext key
  rw [isSet]
  cases p.get? key with
  | none => rfl
  | some value =>
    rcases spelledFlag?_cases value with ⟨lowered, flag⟩ | ⟨lowered, flag⟩ | ⟨lowered, flag⟩ <;>
      simp_all

theorem setFlags?_cons_eq (p : Payload) (key : String) (others : List String) :
    setFlags? p (key :: others) = ((p.get? key).elim (some false) spelledFlag?).bind fun set =>
      (setFlags? p others).map fun flags => if set = true then key :: flags else flags := by
  rw [setFlags?]
  cases p.get? key <;> cases setFlags? p others <;> rfl

theorem setFlags?_cons (p : Payload) (key : String) (others : List String) :
    (IsUnclear p key ∧ setFlags? p (key :: others) = none) ∨
    (¬ IsUnclear p key ∧ setFlags? p (key :: others) =
      (setFlags? p others).map fun flags =>
        if isSet p key = true then key :: flags else flags) := by
  rw [setFlags?_cons_eq, isSet]
  cases found : p.get? key with
  | none => exact .inr ⟨by simp [IsUnclear, found], rfl⟩
  | some value =>
    rw [Option.elim_some, Option.any_some]
    rcases spelledFlag?_cases value with ⟨lowered, flag⟩ | ⟨lowered, flag⟩ | ⟨lowered, flag⟩
    · rw [flag, lowered]
      exact .inr ⟨by simp [IsUnclear, found, lowered], rfl⟩
    · rw [flag, lowered]
      exact .inr ⟨by simp [IsUnclear, found, lowered], rfl⟩
    · rw [flag]
      exact .inl ⟨⟨value, found, lowered⟩, rfl⟩

theorem setFlags?_cases (p : Payload) (keys : List String) :
    ((∃ key ∈ keys, IsUnclear p key) ∧ setFlags? p keys = none) ∨
    ((¬ ∃ key ∈ keys, IsUnclear p key) ∧ setFlags? p keys = some (keys.filter (isSet p))) := by
  -- The first flag that is unclear ends the reading; up to there the flags that are set add up.
  induction keys with
  | nil => exact .inr ⟨by simp, rfl⟩
  | cons key others ih =>
    rcases setFlags?_cons p key others with ⟨unclear, given⟩ | ⟨clear, given⟩
    · exact .inl ⟨⟨key, List.mem_cons_self, unclear⟩, given⟩
    · rcases ih with ⟨⟨other, member, unclear⟩, found⟩ | ⟨clear', found⟩
      · rw [given, found]
        exact .inl ⟨⟨other, List.mem_cons_of_mem _ member, unclear⟩, rfl⟩
      · rw [given, found, List.filter_cons]
        refine .inr ⟨?_, ?_⟩
        · simpa [clear] using clear'
        · rfl

theorem serdeMemberArguments?_cases (p : Payload) :
    (Misfits p ∧ serdeMemberArguments? p = none) ∨
    (¬ Misfits p ∧
      serdeMemberArguments? p = some ((memberArguments p).map Argument.render)) := by
  have rendered : assignments ["rename"] p ++ serdeFlags.filter (isSet p) =
      (memberArguments p).map Argument.render := by
    rw [memberArguments, List.map_append, List.map_map]
    congr 1
    · rw [assignments, List.filterMap_cons, List.filterMap_nil]
      cases p.get? "rename" <;> rfl
    · exact (List.map_id _).symm
  rw [serdeMemberArguments?]
  rcases serdeArguments?_cases ("rename" :: serdeFlags) p with ⟨strays, given⟩ | ⟨regular, given⟩
  · rw [given]
    exact .inl ⟨.inl strays, rfl⟩
  · rw [given, Option.isSome_some, if_pos rfl]
    rcases setFlags?_cases p serdeFlags with ⟨unclear, flags⟩ | ⟨clear, flags⟩
    · rw [flags]
      exact .inl ⟨.inr unclear, rfl⟩
    · rw [flags, Option.map_some, rendered]
      exact .inr ⟨not_or.mpr ⟨regular, clear⟩, rfl⟩

theorem isWord_of_mem_memberArguments {a : Argument} (member : a ∈ memberArguments p) :
    IsWord a.key := by
  rcases List.mem_append.mp member with renamed | flag
  · obtain ⟨value, -, rfl⟩ := Option.map_eq_some_iff.mp (Option.mem_toList.mp renamed)
    exact (by decide : IsWord "rename")
  · obtain ⟨key, set, rfl⟩ := List.mem_map.mp flag
    have words : ∀ key ∈ serdeFlags, IsWord key := by decide
    exact words key (List.mem_filter.mp set).1

/-- The attribute that is written at a field or a case. -/
def memberAttribute? (p : Payload) : Option String :=
  match serdeMemberArguments? p with
  | none | some [] => none
  | some arguments => some (call "serde" arguments)

theorem memberAttribute?_cases (p : Payload) :
    ((Misfits p ∨ memberArguments p = []) ∧ memberAttribute? p = none) ∨
    (¬ (Misfits p ∨ memberArguments p = []) ∧ ∃ text, memberAttribute? p = some text ∧
      Spells text (.applied "serde" (memberArguments p))) := by
  rw [memberAttribute?]
  rcases serdeMemberArguments?_cases p with ⟨misfits, given⟩ | ⟨fits, given⟩
  · rw [given]
    exact .inl ⟨.inl misfits, rfl⟩
  · rw [given]
    by_cases nothing : memberArguments p = []
    · rw [nothing]
      exact .inl ⟨.inr rfl, rfl⟩
    · refine .inr ⟨not_or.mpr ⟨fits, nothing⟩, _, ?_, spells_call (by decide) nothing
        fun a => isWord_of_mem_memberArguments⟩
      cases split : memberArguments p with
      | nil => exact absurd split nothing
      | cons a others => rfl

end Attribute

/-- A contribution to a type that derives serialization, and the attributes that are added. -/
structure Contribution.IsSerialization (attributes : List String) (c : Contribution) : Prop where
  shape_eq : c.shape = .rustType
  action_eq : c.action = .keep
  rows_eq : c.rows = attributes.map (fun text => ("attributes", text)) ++
    [("derives", "serde::Serialize"), ("derives", "serde::Deserialize")]

namespace Visitor

variable {σ : Type} {p : Payload}

/-- The types that serialization is derived for, each with the options that it understands. -/
def serdeContainers : List (NodeKind × List String) :=
  [(.record, ["rename_all"]), (.variant, ["rename_all", "tag", "content"]),
    (.enum, ["rename_all"])]

theorem serdeContainerKeys_eq_some_iff {body : TypeBody} {keys : List String} :
    serdeContainerKeys body = some keys ↔ (body.kind, keys) ∈ serdeContainers := by
  cases body <;> simp [serdeContainerKeys, serdeContainers, TypeBody.kind, eq_comm]

theorem serde_run_container {t : TypeDefinition} {keys : List String}
    (kind : (t.body.kind, keys) ∈ serdeContainers) (state : σ) :
    (Attribute.Strays keys p ∧
      (serde.hook ⟨p, .type t, none⟩).run state = (.nothing, state)) ∨
    (¬ Attribute.Strays keys p ∧ ∃ c attributes,
      (serde.hook ⟨p, .type t, none⟩).run state = (.contribution c, state) ∧
      c.IsSerialization attributes ∧ Attribute.TellContainer keys p attributes) := by
  have words : (∀ key ∈ keys, Attribute.IsWord key) ∧ keys.Nodup := by
    have all : ∀ entry ∈ serdeContainers,
        (∀ key ∈ entry.2, Attribute.IsWord key) ∧ entry.2.Nodup := by decide
    exact all _ kind
  rw [serde, run_ofFunction rfl]
  dsimp only
  rw [serdeContainerKeys_eq_some_iff.mpr kind, Option.bind_eq_bind, Option.bind_some]
  rcases Attribute.serdeArguments?_cases keys p with ⟨strays, given⟩ | ⟨regular, given⟩
  · rw [given]
    exact .inl ⟨strays, rfl⟩
  · rw [given]
    exact .inr ⟨regular, _, _, rfl, ⟨rfl, rfl, rfl⟩,
      Attribute.tellContainer words.1 words.2 regular⟩

theorem serde_run_member {node : Node} (marks : node.kind ∈ [.field, .variantCase])
    (index : Option Int) (state : σ) : (serde.hook ⟨p, node, index⟩).run state =
      (.ofAttribute? node (Attribute.memberAttribute? p), state) := by
  have placed : HookCall.hasSurplusIndex ⟨p, node, index⟩ = false := by
    have members : ∀ kind ∈ [NodeKind.field, .variantCase],
        (Slot.ofKind kind).isMember = true := by decide
    rw [HookCall.hasSurplusIndex, members _ marks]
    exact Bool.and_false _
  rw [serde, run_ofFunction placed, Attribute.memberAttribute?]
  rcases Node.exists_of_kind_mem (List.mem_cons_of_mem _ marks) with
    ⟨f, rfl⟩ | ⟨f, rfl⟩ | ⟨c, rfl⟩
  · exact absurd marks (by decide : NodeKind.function ∉ [.field, .variantCase])
  all_goals rcases Attribute.serdeMemberArguments? p with _ | _ | _ <;> rfl

/-- Serialization attributes tell their payload. On a type, a payload with a text that is not blank
or with an option that the type does not understand is refused; otherwise the two traits are
derived, and the options, if there are any, are told by one attribute. On a field or a case, one
attribute tells the new name and the flags that are set; a payload is refused when it has a text, an
option that is not understood or a flag that spells no truth value, or when there is nothing to
tell. Whatever a text in an attribute is, its literal ends where it should. -/
theorem serde_tells (p : Payload) (state : σ) :
    (∀ (t : TypeDefinition) (keys : List String), (t.body.kind, keys) ∈ serdeContainers →
      (Attribute.Strays keys p ∧
        (serde.hook ⟨p, .type t, none⟩).run state = (.nothing, state)) ∨
      (¬ Attribute.Strays keys p ∧ ∃ c attributes,
        (serde.hook ⟨p, .type t, none⟩).run state = (.contribution c, state) ∧
        c.IsSerialization attributes ∧ Attribute.TellContainer keys p attributes)) ∧
    (∀ (node : Node) (index : Option Int), node.kind ∈ [.field, .variantCase] →
      ((Attribute.Misfits p ∨ Attribute.memberArguments p = []) ∧
        (serde.hook ⟨p, node, index⟩).run state = (.nothing, state)) ∨
      (¬ (Attribute.Misfits p ∨ Attribute.memberArguments p = []) ∧ ∃ c text,
        (serde.hook ⟨p, node, index⟩).run state = (.contribution c, state) ∧
        c.IsAttribute node text ∧
        Attribute.Spells text (.applied "serde" (Attribute.memberArguments p)))) ∧
    ∀ (value : String) (tail : List Char),
      Literal.read? ((Literal.escape value).toList ++ '"' :: tail) =
        some (value.toList, tail) := by
  refine ⟨fun t keys kind => serde_run_container kind state, ?_, Literal.read?_escape⟩
  intro node index marks
  rw [serde_run_member marks index state]
  rcases Attribute.memberAttribute?_cases p with
    ⟨refused, nothing⟩ | ⟨regular, text, written, spells⟩
  · rw [nothing]
    exact .inl ⟨refused, rfl⟩
  · rcases Answer.ofAttribute?_cases (List.mem_cons_of_mem _ marks)
      (Attribute.memberAttribute? p) with ⟨nothing, -⟩ | ⟨text', c, written', answer, single⟩
    · cases nothing.symm.trans written
    · cases written'.symm.trans written
      exact .inr ⟨regular, c, text, congrArg (·, state) answer, single, spells⟩

/-- A new name that looks like the end of its own literal, beside two flags. -/
def trickyMember : Payload :=
  ⟨"serde", [" "], .ofList [("default", "False"), ("skip", "TRUE"), ("rename", "a\", default, \\")]⟩

/-- A tag that looks like the end of its attribute. -/
def trickyVariant : Payload := ⟨"serde", [], .ofList [("tag", "kind\")]\n#[")]⟩

theorem serde_tells_tricky :
    let field : Node := .field ⟨⟨"old", none, []⟩, "u8"⟩
    let shape : TypeDefinition := ⟨⟨"shape", none, []⟩, 0, .variant []⟩
    (∃ c text, (serde.hook ⟨trickyMember, field, some 0⟩).run () = (.contribution c, ()) ∧
      c.IsAttribute field text ∧ Attribute.read? text =
        some (.applied "serde" [⟨"rename", some "a\", default, \\"⟩, ⟨"skip", none⟩])) ∧
    ∃ c text, (serde.hook ⟨trickyVariant, .type shape, none⟩).run () = (.contribution c, ()) ∧
      c.IsSerialization [text] ∧ Attribute.read? text =
        some (.applied "serde" [⟨"tag", some "kind\")]\n#["⟩]) := by
  intro field shape
  have arguments : Attribute.memberArguments trickyMember =
      [⟨"rename", some "a\", default, \\"⟩, ⟨"skip", none⟩] := by
    rw [Attribute.memberArguments, Attribute.isSet_eq]
    decide
  obtain ⟨-, members, -⟩ := serde_tells trickyMember ()
  obtain ⟨containers, -, -⟩ := serde_tells trickyVariant ()
  constructor
  · rcases members field (some 0) (by decide) with
      ⟨-, nothing⟩ | ⟨-, c, text, answer, single, spells⟩
    · exact absurd (congrArg Prod.fst nothing) (by decide)
    · exact ⟨c, text, answer, single, arguments ▸ spells.read?_eq⟩
  · rcases containers shape ["rename_all", "tag", "content"] (by decide) with
      ⟨-, nothing⟩ | ⟨-, c, attributes, answer, single, told⟩
    · exact absurd (congrArg Prod.fst nothing) (by decide)
    · rcases told with ⟨empty, -⟩ | ⟨text, arguments, -, rfl, spells, entries, all, -, rfl⟩
      · exact absurd empty (by decide)
      · obtain rfl : entries = [("tag", "kind\")]\n#[")] := List.perm_singleton.mp all
        exact ⟨c, text, answer, single, spells.read?_eq⟩

end Visitor

end SchemaWeaver
