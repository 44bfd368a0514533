import SchemaWeaver.Proofs.OrderedMap
import SchemaWeaver.Proofs.Schema.Annotations
import SchemaWeaver.Proofs.Visitor.Levels

/-!
# What the built-in visitors read

The hooks of the built-in visitors read little of a call. Of the node they read nothing that its
annotations or those of its members say. Of the options they read what every key holds, and never
in which order the keys stand. Most of them read only the texts that are not blank; the visitors for
tracing and for versions read the texts joined into one, up to blank characters at its ends.

A visitor respects a relation between payloads when it does not tell related payloads apart. Each
hook is looked at once, and what is said later about the order of keys or about blank texts follows
from the relation that the hook respects.
-/

namespace SchemaWeaver

namespace Payload

/-- The texts that are not blank. -/
def notes (p : Payload) : List String := p.values.filter fun value => !Text.isBlankText value

/-- Payloads with the same texts apart from blank ones, and with the same option under every key. -/
structure Alike (p p' : Payload) : Prop where
  notes_eq : p'.notes = p.notes
  get?_eq : ∀ key, p'.get? key = p.get? key

/-- Payloads that are alike and whose joined texts are the same as well. -/
structure SameText (p p' : Payload) : Prop extends Alike p p' where
  trim_text_eq : Text.trim p'.text = Text.trim p.text

end Payload

theorem Text.stretches_of_notMem {separator : Char} {s : List Char} (h : separator ∉ s) :
    Text.stretches separator s = [s] := by
  induction s with
  | nil => rfl
  | cons c rest ih =>
    rw [List.mem_cons, not_or] at h
    rw [Text.stretches, if_neg (Ne.symm h.1), ih h.2]

/-- A blank text names nothing. -/
theorem Text.segments_of_isBlankText {s : String} (h : Text.isBlankText s = true) :
    Text.segments s = [] := by
  have noComma : ',' ∉ s.toList := fun member =>
    absurd (List.all_eq_true.mp h ',' member) (by decide)
  have nothing : Text.trimmed s.toList = [] := Text.trimmed_eq_nil_iff.mpr h
  rw [Text.segments, Text.stretches_of_notMem noComma, List.map_singleton, nothing]
  rfl

namespace Payload

theorem segmentsOf_eq (p : Payload) : Visitor.segmentsOf p = p.notes.flatMap Text.segments := by
  rw [Visitor.segmentsOf, notes]
  induction p.values with
  | nil => rfl
  | cons value values ih =>
    rw [List.flatMap_cons, ih, List.filter_cons]
    cases h : Text.isBlankText value with
    | true => rw [Text.segments_of_isBlankText h]; rfl
    | false => rfl

theorem trimmedValues_eq (p : Payload) : p.trimmedValues = p.notes.map Text.trim := by
  rw [trimmedValues, notes, List.filter_map]
  congr 1
  refine List.filter_congr fun value _ => ?_
  cases h : Text.isBlankText value with
  | true => simp [Text.trim_eq_empty_iff.mpr h]
  | false => simpa [h] using Text.trim_eq_empty_iff (s := value)

theorem all_isBlankText_iff (p : Payload) :
    p.values.all Text.isBlankText = true ↔ p.notes = [] := by
  simp [notes, List.filter_eq_nil_iff]

theorem notes_eq_nil_iff {p : Payload} :
    p.notes = [] ↔ ∀ value ∈ p.values, Text.isBlankText value = true := by
  rw [← p.all_isBlankText_iff, List.all_eq_true]

theorem isEmpty_options_iff (p : Payload) :
    p.options.isEmpty = true ↔ ∀ key, p.get? key = none := by
  constructor
  · intro empty key
    have noEntries : p.options.entries = [] := List.isEmpty_iff.mp empty
    rw [get?, OrderedMap.find?, noEntries]
    rfl
  · intro absent
    refine List.isEmpty_iff.mpr (List.eq_nil_iff_forall_not_mem.mpr ?_)
    rintro ⟨key, value⟩ entry
    have found : p.get? key = some value := OrderedMap.find?_eq_some_iff.mpr entry
    rw [absent key] at found
    cases found

theorem optionsWithin_iff (p : Payload) (allowed : List String) :
    p.optionsWithin allowed = true ↔ ∀ key, (p.get? key).isSome = true → key ∈ allowed := by
  simp only [optionsWithin, List.all_eq_true, List.contains_iff_mem, get?,
    OrderedMap.find?_isSome_iff]

namespace Alike

variable {p p' : Payload}

theorem segmentsOf (h : p.Alike p') : Visitor.segmentsOf p' = Visitor.segmentsOf p := by
  rw [segmentsOf_eq, segmentsOf_eq, h.notes_eq]

theorem trimmedValues (h : p.Alike p') : p'.trimmedValues = p.trimmedValues := by
  rw [trimmedValues_eq, trimmedValues_eq, h.notes_eq]

theorem all_isBlankText (h : p.Alike p') :
    p'.values.all Text.isBlankText = p.values.all Text.isBlankText := by
  rw [Bool.eq_iff_iff, all_isBlankText_iff, all_isBlankText_iff, h.notes_eq]

theorem isEmpty_options (h : p.Alike p') : p'.options.isEmpty = p.options.isEmpty := by
  rw [Bool.eq_iff_iff, isEmpty_options_iff, isEmpty_options_iff]
  simp only [h.get?_eq]

theorem optionsWithin (h : p.Alike p') (allowed : List String) :
    p'.optionsWithin allowed = p.optionsWithin allowed := by
  rw [Bool.eq_iff_iff, optionsWithin_iff, optionsWithin_iff]
  simp only [h.get?_eq]

theorem assignments (h : p.Alike p') (keys : List String) :
    Attribute.assignments keys p' = Attribute.assignments keys p := by
  simp only [Attribute.assignments, h.get?_eq]

theorem setFlags? (h : p.Alike p') (keys : List String) :
    Attribute.setFlags? p' keys = Attribute.setFlags? p keys := by
  induction keys with
  | nil => rfl
  | cons key keys ih => simp only [Attribute.setFlags?, h.get?_eq, ih]

theorem deprecation? (h : p.Alike p') : Attribute.deprecation? p' = Attribute.deprecation? p := by
  simp only [Attribute.deprecation?, h.trimmedValues, h.isEmpty_options, h.optionsWithin,
    h.assignments]

theorem serdeArguments? (h : p.Alike p') (allowed : List String) :
    Attribute.serdeArguments? allowed p' = Attribute.serdeArguments? allowed p := by
  simp only [Attribute.serdeArguments?, h.all_isBlankText, h.optionsWithin, h.assignments]

theorem serdeMemberArguments? (h : p.Alike p') :
    Attribute.serdeMemberArguments? p' = Attribute.serdeMemberArguments? p := by
  simp only [Attribute.serdeMemberArguments?, h.serdeArguments?, h.setFlags?, h.assignments]

end Alike

theorem SameText.version? {p p' : Payload} (h : p.SameText p') :
    Visitor.version? p' = Visitor.version? p := by
  simp only [Visitor.version?, h.get?_eq, h.trim_text_eq]

end Payload

/-- Calls for nodes that differ in annotations only, with related payloads. -/
structure HookCall.Related (R : Payload → Payload → Prop) (call call' : HookCall) : Prop where
  payload : R call.payload call'.payload
  bare_eq : call'.node.bare = call.node.bare
  index_eq : call'.index = call.index

namespace HookCall.Related

variable {R : Payload → Payload → Prop} {call call' : HookCall}

theorem kind_eq (h : call.Related R call') : call'.node.kind = call.node.kind := by
  simpa [Node.bare] using congrArg Node.kind h.bare_eq

theorem name_eq (h : call.Related R call') : call'.node.name = call.node.name := by
  simpa [Node.bare] using congrArg Node.name h.bare_eq

end HookCall.Related

namespace Visitor

variable {σ : Type} {R : Payload → Payload → Prop}

/-- A visitor that does the same for related calls. -/
def Respects (R : Payload → Payload → Prop) (v : Visitor σ) : Prop :=
  ∀ call call' : HookCall, call.Related R call' → v.hook call' = v.hook call

theorem respects_ofFunction {className target : String} {family : Backend} {kinds : List NodeKind}
    {answer : Payload → Node → Option Contribution}
    (bare : ∀ payload node, answer payload node.bare = answer payload node)
    (related : ∀ payload payload' node, R payload payload' →
      answer payload' node = answer payload node) :
    (ofFunction className target family kinds answer : Visitor σ).Respects R := by
  intro call call' h
  have answers : answer call'.payload call'.node = answer call.payload call.node := by
    rw [← bare, h.bare_eq, bare]
    exact related _ _ _ h.payload
  have surplus : call'.hasSurplusIndex = call.hasSurplusIndex := by
    rw [HookCall.hasSurplusIndex, h.index_eq, h.kind_eq]
    rfl
  simp only [ofFunction, answers, surplus, h.kind_eq]

theorem Respects.mono {R' : Payload → Payload → Prop} {v : Visitor σ} (h : v.Respects R)
    (weaker : ∀ p p', R' p p' → R p p') : v.Respects R' :=
  fun call call' related => h call call' ⟨weaker _ _ related.payload, related.bare_eq,
    related.index_eq⟩

theorem derive_respects : (derive : Visitor σ).Respects Payload.Alike := by
  apply respects_ofFunction
  · intro payload node
    simp only [Node.bare, Node.kind_reannotate]
  · intro payload payload' node alike
    simp only [alike.segmentsOf]

theorem deprecated_respects : (deprecated : Visitor σ).Respects Payload.Alike := by
  apply respects_ofFunction
  · intro payload node
    cases node <;> rfl
  · intro payload payload' node alike
    simp only [alike.deprecation?]

theorem Tracer.respects (t : Tracer) : (t.visitor : Visitor σ).Respects Payload.SameText := by
  apply respects_ofFunction
  · intro payload node
    cases node <;> rfl
  · intro payload payload' node same
    have level_eq : Tracer.level payload' = Tracer.level payload :=
      congrArg (orElse · "debug") same.trim_text_eq
    cases node <;> simp only [Tracer.answer, level_eq]

theorem callLog_respects : (callLog : Visitor σ).Respects Payload.Alike := by
  apply respects_ofFunction
  · intro payload node
    cases node <;> rfl
  · intro payload payload' node alike
    rfl

theorem since_respects : (since : Visitor σ).Respects Payload.SameText := by
  apply respects_ofFunction
  · intro payload node
    cases version? payload <;> cases node <;> rfl
  · intro payload payload' node same
    simp only [same.version?]

theorem validate_respects : (validate : Visitor σ).Respects Payload.Alike := by
  apply respects_ofFunction
  · intro payload node
    cases payload.trimmedValues <;> cases node <;> rfl
  · intro payload payload' node alike
    simp only [alike.trimmedValues]

theorem serde_respects : (serde : Visitor σ).Respects Payload.Alike := by
  apply respects_ofFunction
  · intro payload node
    cases node with
    | type t => cases h : t.body <;> simp [Node.bare, Node.reannotate, TypeDefinition.reannotate,
        TypeBody.reannotate, serdeContainerKeys, h]
    | field | case | function | interface | world => rfl
  · intro payload payload' node alike
    simp only [alike.serdeMemberArguments?, alike.serdeArguments?]

theorem dataclass_respects : (dataclass : Visitor σ).Respects Payload.Alike := by
  apply respects_ofFunction
  · intro payload node
    cases node with
    | type t => cases h : t.body <;> simp [Node.bare, Node.reannotate, TypeDefinition.reannotate,
        TypeBody.reannotate, h]
    | field | case | function | interface | world => rfl
  · intro payload payload' node alike
    simp only [alike.segmentsOf, alike.isEmpty_options, alike.optionsWithin, alike.get?_eq]

/-- All built-in visitors but those of tracers and the one for versions respect what is alike. -/
theorem builtin_cases {v : Visitor σ} (shipped : v ∈ builtin) :
    (v.Respects Payload.Alike ∧ v.target ∉ ["trace", "since"]) ∨
      (∃ t : Tracer, v = t.visitor) ∨ v = since := by
  simp only [builtin, rustDefaults, pythonDefaults, List.cons_append, List.nil_append,
    List.mem_cons, List.not_mem_nil, or_false] at shipped
  rcases shipped with rfl | rfl | rfl | rfl | rfl | rfl | rfl | rfl | rfl
  · exact .inl ⟨derive_respects, (by decide : "derive" ∉ ["trace", "since"])⟩
  · exact .inl ⟨deprecated_respects, (by decide : "deprecated" ∉ ["trace", "since"])⟩
  · exact .inr (.inl ⟨.rust, tracing_eq⟩)
  · exact .inl ⟨callLog_respects, (by decide : "log" ∉ ["trace", "since"])⟩
  · exact .inr (.inr rfl)
  · exact .inl ⟨validate_respects, (by decide : "validate" ∉ ["trace", "since"])⟩
  · exact .inl ⟨serde_respects, (by decide : "serde" ∉ ["trace", "since"])⟩
  · exact .inl ⟨dataclass_respects, (by decide : "dataclass" ∉ ["trace", "since"])⟩
  · exact .inr (.inl ⟨.python, loggerTrace_eq⟩)

/-- No built-in visitor tells payloads apart that have the same text and the same option under every
key. -/
theorem builtin_respects {v : Visitor σ} (shipped : v ∈ builtin) :
    v.Respects Payload.SameText := by
  rcases builtin_cases shipped with ⟨alike, -⟩ | ⟨t, rfl⟩ | rfl
  · exact alike.mono fun _ _ same => same.toAlike
  · exact t.respects
  · exact since_respects

end Visitor

end SchemaWeaver
