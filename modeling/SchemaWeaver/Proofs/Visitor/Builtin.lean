import SchemaWeaver.Proofs.Contribution.Merge
import SchemaWeaver.Proofs.Visitor.Levels

/-!
# The built-in visitors behave

A visitor behaves when its hook, called with a position for members only, answers with nothing or
with a proper contribution: one of the shape that its backend has for the slot of the node, with at
least one fragment, and without a request to drop the default code. The built-in visitors behave,
whatever the payload and the node.
-/

namespace SchemaWeaver

/-- A contribution of the given shape that has fragments and keeps the code generated by default. -/
structure Contribution.Proper (shape : Shape) (c : Contribution) : Prop where
  shape_eq : c.shape = shape
  isEmpty_eq : c.isEmpty = false
  action_eq : c.action = .keep

/-- An answer that is nothing or a proper contribution. -/
def Answer.Proper (shape : Shape) : Answer → Prop
  | .nothing => True
  | .contribution c => c.Proper shape
  | .foreign _ => False
  | .failure _ => False

/-- A visitor behaves when its hook is a function whose answers are proper. -/
def Visitor.Behaves {σ : Type} (v : Visitor σ) : Prop :=
  ∃ answer : HookCall → Answer, (∀ call, v.hook call = pure (answer call)) ∧
    ∀ call, call.hasSurplusIndex = false →
      (answer call).Proper (v.family.get (Slot.ofKind call.node.kind))

namespace Contribution

theorem isEmpty_eq_false_iff {c : Contribution} :
    c.isEmpty = false ↔ ∃ list, c.fragments list ≠ [] := by
  rw [← Bool.not_eq_true, isEmpty_iff, not_forall]

/-- Contributions of one place can be merged, and the result belongs there as well. -/
theorem Proper.merge {shape : Shape} {c d : Contribution} (hc : c.Proper shape)
    (hd : d.Proper shape) : ∃ merged, c.merge d = .ok merged ∧ merged.Proper shape := by
  obtain ⟨merged, merges, shape_eq, action_eq, lists⟩ :=
    merge_of_shape_eq (hd.shape_eq.trans hc.shape_eq.symm)
  refine ⟨merged, merges, shape_eq.trans hc.shape_eq, ?_, ?_⟩
  · obtain ⟨list, written⟩ := isEmpty_eq_false_iff.mp hc.isEmpty_eq
    refine isEmpty_eq_false_iff.mpr ⟨list, ?_⟩
    rw [lists]
    exact List.append_ne_nil_of_left_ne_nil written _
  · rw [action_eq, hc.action_eq, hd.action_eq]
    rfl

/-- Fragments in one list of the shape are enough. -/
theorem proper_ofLists (shape : Shape) {list : String} {fragments : List String}
    {others : List (String × List String)} (present : list ∈ shape.lists)
    (nonempty : fragments ≠ []) : (ofLists shape ((list, fragments) :: others)).Proper shape where
  shape_eq := rfl
  isEmpty_eq := by
    refine isEmpty_eq_false_iff.mpr ⟨list, ?_⟩
    rw [ofLists, fragments_tabulate, if_pos present, lookup_cons_eq_ite, if_pos rfl]
    exact nonempty
  action_eq := rfl

theorem proper_cons (shape : Shape) {list fragment : String} {fragments : List String}
    {others : List (String × List String)} (present : list ∈ shape.lists) :
    (ofLists shape ((list, fragment :: fragments) :: others)).Proper shape :=
  proper_ofLists shape present (List.cons_ne_nil _ _)

end Contribution

namespace Visitor

variable {σ : Type}

theorem behaves_ofFunction {className target : String} {family : Backend} {kinds : List NodeKind}
    {answer : Payload → Node → Option Contribution}
    (proper : ∀ payload node c, answer payload node = some c →
      c.Proper (family.get (Slot.ofKind node.kind))) :
    (ofFunction className target family kinds answer : Visitor σ).Behaves := by
  refine ⟨_, fun call => rfl, ?_⟩
  intro call placed
  simp only [placed, Bool.false_eq_true, if_false]
  cases answered : answer call.payload call.node with
  | none => trivial
  | some c => exact proper call.payload call.node c answered

theorem derive_behaves : (derive : Visitor σ).Behaves := by
  apply behaves_ofFunction
  intro payload node c answered
  have proper (nonempty : segmentsOf payload = [] → False) :
      (Contribution.ofLists .rustType [("derives", segmentsOf payload)]).Proper .rustType :=
    Contribution.proper_ofLists .rustType (by decide) nonempty
  split at answered
  case h_1 => cases answered
  case h_6 => cases answered
  all_goals
    rename_i kind nonempty
    cases answered
    rw [kind]
    exact proper nonempty

theorem deprecated_behaves : (deprecated : Visitor σ).Behaves := by
  apply behaves_ofFunction
  intro payload node c answered
  have proper (shape : Shape) (present : "attributes" ∈ shape.lists)
      (marked : ((Attribute.deprecation? payload).map fun text =>
        Contribution.ofLists shape [("attributes", [text])]) = some c) : c.Proper shape := by
    obtain ⟨text, -, rfl⟩ := Option.map_eq_some_iff.mp marked
    exact Contribution.proper_cons shape present
  cases node with
  | function f => exact proper .rustFunction (by decide) answered
  | field f => exact proper .rustField (by decide) answered
  | case c => exact proper .rustCase (by decide) answered
  | type t => cases answered
  | interface i => cases answered
  | world w => cases answered

theorem Tracer.behaves {t : Tracer}
    (entry : ∀ level name, (t.entry level name).Proper (t.family.get .function))
    (setup : t.setup.Proper (t.family.get .module)) : (t.visitor : Visitor σ).Behaves := by
  apply behaves_ofFunction
  intro payload node c answered
  cases node with
  | function f =>
    rw [Tracer.answer] at answered
    split at answered
    · cases answered
      exact entry _ f.name
    · cases answered
  | interface i =>
    cases answered
    exact setup
  | type t => cases answered
  | field f => cases answered
  | case c => cases answered
  | world w => cases answered

theorem tracing_behaves : (tracing : Visitor σ).Behaves := by
  rw [tracing_eq]
  exact Tracer.behaves (fun _ _ => Contribution.proper_cons .rustFunction (by decide))
    (Contribution.proper_cons .rustModule (by decide))

theorem callLog_behaves : (callLog : Visitor σ).Behaves := by
  apply behaves_ofFunction
  intro payload node c answered
  cases node with
  | function f =>
    cases answered
    exact Contribution.proper_cons .rustFunction (by decide)
  | interface i => cases answered
  | type t => cases answered
  | field f => cases answered
  | case c => cases answered
  | world w => cases answered

theorem since_behaves : (since : Visitor σ).Behaves := by
  apply behaves_ofFunction
  intro payload node c answered
  dsimp only at answered
  split at answered
  · cases answered
    exact Contribution.proper_cons .rustFunction (by decide)
  · cases answered
    exact Contribution.proper_cons .rustModule (by decide)
  · cases answered
    exact Contribution.proper_cons .rustModule (by decide)
  · cases answered

theorem validate_behaves : (validate : Visitor σ).Behaves := by
  apply behaves_ofFunction
  intro payload node c answered
  split at answered
  · cases answered
    exact Contribution.proper_cons .rustFunction (by decide)
  · cases answered

theorem serde_behaves : (serde : Visitor σ).Behaves := by
  apply behaves_ofFunction
  intro payload node c answered
  cases node with
  | type t =>
    have slot : Slot.ofKind (Node.type t).kind = .type := Slot.ofKind_body t.body
    simp only [Option.bind_eq_bind, Option.bind_eq_some_iff] at answered
    obtain ⟨keys, -, arguments, -, written⟩ := answered
    cases written
    rw [slot]
    exact Contribution.proper_cons .rustType (by decide)
  | field f =>
    dsimp only at answered
    split at answered
    · cases answered
    · cases answered
    · cases answered
      exact Contribution.proper_cons .rustField (by decide)
  | case c =>
    dsimp only at answered
    split at answered
    · cases answered
    · cases answered
    · cases answered
      exact Contribution.proper_cons .rustCase (by decide)
  | function f => cases answered
  | interface i => cases answered
  | world w => cases answered

/-- Options that are all known make some entry. -/
theorem options_ne_nil {payload : Payload} {keys : List String} {entry : String → String → String}
    (nonempty : ¬payload.options.isEmpty = true) (known : payload.optionsWithin keys = true) :
    (keys.filterMap fun key => (payload.get? key).map (entry key)) ≠ [] := by
  rw [OrderedMap.isEmpty, List.isEmpty_iff] at nonempty
  obtain ⟨⟨key, value⟩, present⟩ := List.exists_mem_of_ne_nil _ nonempty
  have isKey : key ∈ payload.options.keys := List.mem_map.mpr ⟨_, present, rfl⟩
  have isKnown : key ∈ keys := List.contains_iff_mem.mp (List.all_eq_true.mp known key isKey)
  have given : payload.get? key = some value := OrderedMap.find?_eq_some_iff.mpr present
  have made : (payload.get? key).map (entry key) = some (entry key value) := by
    rw [given, Option.map_some]
  exact List.ne_nil_of_mem (List.mem_filterMap.mpr ⟨key, isKnown, made⟩)

theorem dataclass_behaves : (dataclass : Visitor σ).Behaves := by
  apply behaves_ofFunction
  intro payload node c answered
  cases node with
  | type t =>
    have slot : Slot.ofKind (Node.type t).kind = .type := Slot.ofKind_body t.body
    dsimp only at answered
    split at answered
    · split at answered
      · cases answered
        rw [slot]
        exact Contribution.proper_cons .pythonType (by decide)
      · cases answered
    · cases answered
  | field f =>
    dsimp only at answered
    split at answered
    · cases answered
    · rename_i known
      cases answered
      refine Contribution.proper_ofLists .pythonField (by decide) ?_
      rw [Bool.or_eq_true, Bool.not_eq_true', not_or, Bool.not_eq_false] at known
      exact options_ne_nil known.1 known.2
  | interface i =>
    cases answered
    exact Contribution.proper_cons .pythonModule (by decide)
  | function f => cases answered
  | case c => cases answered
  | world w => cases answered

theorem loggerTrace_behaves : (loggerTrace : Visitor σ).Behaves := by
  rw [loggerTrace_eq]
  exact Tracer.behaves (fun _ _ => Contribution.proper_cons .pythonFunction (by decide))
    (Contribution.proper_cons .pythonModule (by decide))

theorem rustDefaults_behave :
    ∀ v ∈ (rustDefaults : List (Visitor σ)), v.family = .rust ∧ v.Behaves := by
  intro v member
  simp only [rustDefaults, List.mem_cons, List.not_mem_nil, or_false] at member
  rcases member with rfl | rfl | rfl | rfl | rfl | rfl | rfl
  · exact ⟨rfl, derive_behaves⟩
  · exact ⟨rfl, deprecated_behaves⟩
  · exact ⟨rfl, tracing_behaves⟩
  · exact ⟨rfl, callLog_behaves⟩
  · exact ⟨rfl, since_behaves⟩
  · exact ⟨rfl, validate_behaves⟩
  · exact ⟨rfl, serde_behaves⟩

theorem pythonDefaults_behave :
    ∀ v ∈ (pythonDefaults : List (Visitor σ)), v.family = .python ∧ v.Behaves := by
  intro v member
  simp only [pythonDefaults, List.mem_cons, List.not_mem_nil, or_false] at member
  rcases member with rfl | rfl
  · exact ⟨rfl, dataclass_behaves⟩
  · exact ⟨rfl, loggerTrace_behaves⟩

end Visitor

end SchemaWeaver
