import SchemaWeaver.Contribution.Builtin
import SchemaWeaver.Proofs.Outcome.Editing

/-!
# Calls of an outcome

An outcome is used by calls: it is given contributions, attributes of members, diagnostics and
invocations, and it is handed on. What a call can do is said once, by `call_cases`: it is refused
and changes nothing, or it merges a contribution into a place, or it leaves all places and the
action as they are. After any sequence of calls an outcome was therefore handed on at most once, and
it does not change any more once it was.
-/

namespace SchemaWeaver

/-- Shapes whose contributions can be given attributes. -/
def Shape.TakesAttributes (shape : Shape) : Prop :=
  ∃ list ∈ shape.lists, shape.listOfWriter? "add_attribute" = some list

instance : DecidablePred Shape.TakesAttributes := fun shape =>
  inferInstanceAs
    (Decidable (∃ list ∈ shape.lists, shape.listOfWriter? "add_attribute" = some list))

theorem Contribution.append?_eq_none_iff {c : Contribution} {list fragment : String} :
    c.append? list fragment = none ↔ list ∉ c.shape.lists := by
  unfold append?
  split <;> simp [*]

/-- Attributes are written for exactly the shapes that take them. -/
theorem Contribution.write?_attribute_eq_none_iff {shape : Shape} {fragment : String} :
    (empty shape).write? "add_attribute" fragment = none ↔ ¬shape.TakesAttributes := by
  have unwritten : (empty shape).write? "add_attribute" fragment = none ↔
      ∀ list, shape.listOfWriter? "add_attribute" = some list → list ∉ shape.lists := by
    simp only [write?, Option.bind_eq_none_iff, append?_eq_none_iff]
    exact Iff.rfl
  rw [unwritten]
  exact ⟨fun h ⟨list, listed, writes⟩ => h list writes listed,
    fun h list writes listed => h ⟨list, listed, writes⟩⟩

namespace Outcome

/-- A contribution on its way into a slot, under a name if one is given. -/
structure Merging where
  slot : Slot
  value : Contribution
  member? : Option String
  deriving DecidableEq, Repr

namespace Merging

/-- The name under which a contribution is kept; only the slots of members look at it. -/
def name (m : Merging) : String := m.member?.getD ""

/-- Contributions to members need a name. -/
def Named (m : Merging) : Prop := m.slot.isMember = true → m.member?.isSome = true

end Merging

/-- A call of an outcome. -/
inductive Call where
  | merge (slot : Slot) (c : Contribution) (member? : Option String)
  | addAttribute (slot : Slot) (member fragment : String)
  | record (kind : DiagnosticKind) (target message : String)
  | recordInvocation (invocation : Invocation)
  | consume
  deriving DecidableEq, Repr

namespace Call

/-- Merges a contribution to a type. -/
def mergeType (c : Contribution) : Call := merge .type c none

/-- Merges a contribution to a field. -/
def mergeField (member : String) (c : Contribution) : Call := merge .field c (some member)

/-- Merges a contribution to a case. -/
def mergeCase (member : String) (c : Contribution) : Call := merge .case c (some member)

/-- Merges a contribution to a function. -/
def mergeFunction (c : Contribution) : Call := merge .function c none

/-- Merges a contribution to a module. -/
def mergeModule (c : Contribution) : Call := merge .module c none

/-- Adds an attribute to a field. -/
def addFieldAttribute (member fragment : String) : Call := addAttribute .field member fragment

/-- Adds an attribute to a case. -/
def addCaseAttribute (member fragment : String) : Call := addAttribute .case member fragment

/-- What a call does to an outcome, write by write. -/
def edits : Call → Editing Unit
  | merge slot c member? => Editing.merge slot c member?
  | addAttribute slot member fragment => Editing.addAttribute slot member fragment
  | record kind target message => Editing.record kind target message
  | recordInvocation invocation => Editing.recordInvocation invocation
  | consume => Editing.consume

/-- The contribution that a call wants to merge. -/
def merging? (family : Backend) : Call → Option Merging
  | merge slot c member? => some ⟨slot, c, member?⟩
  | addAttribute slot member fragment =>
    ((Contribution.empty (family.get slot)).write? "add_attribute" fragment).map fun c =>
      ⟨slot, c, some member⟩
  | record .. | recordInvocation _ | consume => none

/-- A call that a family has the means for: attributes go to shapes that take them. -/
def Supported (family : Backend) : Call → Prop
  | addAttribute slot _ _ => (family.get slot).TakesAttributes
  | merge .. | record .. | recordInvocation _ | consume => True

end Call

/-- The operation that a call stands for. -/
def operate (o : Outcome) : Call → Except Refusal Outcome
  | .merge slot c member? => o.merge slot c member?
  | .addAttribute slot member fragment => o.addAttribute slot member fragment
  | .record kind target message => o.record kind target message
  | .recordInvocation invocation => o.recordInvocation invocation
  | .consume => o.consume

/-- How a call ends, and what it leaves behind. -/
def call (o : Outcome) (c : Call) : Except Refusal Unit × Outcome := c.edits.run.run o

/-- The outcome after calls, one after another. -/
def after (o : Outcome) (calls : List Call) : Outcome :=
  calls.foldl (fun current c => (current.call c).2) o

/-- The calls that are not refused, in their order. -/
def accepted (o : Outcome) : List Call → List Call
  | [] => []
  | c :: calls =>
    match o.call c with
    | (.ok _, next) => c :: next.accepted calls
    | (.error _, next) => next.accepted calls

/-- Why an outcome refuses a call: the family lacks the means for it, or else the outcome was handed
on, or else a name is missing, or else the contribution cannot be merged with what its place
holds. -/
inductive Refuses (o : Outcome) : Call → Refusal → Prop
  | noAttributes {slot : Slot} {member fragment : String}
      (unsupported : ¬(o.family.get slot).TakesAttributes) :
      Refuses o (.addAttribute slot member fragment) (.noAttributes o.family.name slot)
  | consumed {c : Call} (supported : c.Supported o.family) (consumed : o.consumed = true) :
      Refuses o c (.consumed o.kind o.name)
  | missingMember {c : Call} {m : Merging} (merging : c.merging? o.family = some m)
      (isOpen : o.consumed = false) (unnamed : ¬m.Named) : Refuses o c (.missingMember m.slot)
  | mismatch {c : Call} {m : Merging} {held : Contribution}
      (merging : c.merging? o.family = some m) (isOpen : o.consumed = false) (named : m.Named)
      (atPlace : o.at? m.slot m.name = some held) (unrelated : ¬m.value.shape.Extends held.shape)
      (unrelated' : ¬held.shape.Extends m.value.shape) :
      Refuses o c (.mismatch ⟨m.value.shape.name, held.shape.name⟩)

/-- A merge that an open outcome takes in, and what its place holds then. -/
structure Merges (o : Outcome) (m : Merging) (merged : Contribution) : Prop where
  isOpen : o.consumed = false
  named : m.Named
  combined : combine (o.at? m.slot m.name) m.value = .ok merged

/-- The outcome after a merge. -/
def taking (o : Outcome) (m : Merging) (merged : Contribution) : Outcome :=
  { o.put m.slot m.name merged with action := o.action.max m.value.action }

/-- The outcome after a call that merges nothing. -/
def noting (o : Outcome) : Call → Outcome
  | .record kind target message => o.told [o.diagnostic kind target message]
  | .recordInvocation invocation => o.called invocation
  | .consume => { o with consumed := true }
  | .merge .. | .addAttribute .. => o

section Step

variable {o : Outcome} {c : Call} {m : Merging} {merged : Contribution} {reason : Refusal}

theorem combine_eq_error_iff {held? : Option Contribution} {value : Contribution} :
    combine held? value = .error reason ↔ ∃ held, held? = some held ∧
      (¬value.shape.Extends held.shape ∧ ¬held.shape.Extends value.shape) ∧
      reason = .mismatch ⟨value.shape.name, held.shape.name⟩ := by
  cases held? with
  | none => simp [combine]
  | some held =>
    cases merges : held.merge value with
    | ok both =>
      have related : ¬(¬value.shape.Extends held.shape ∧ ¬held.shape.Extends value.shape) := by
        intro unrelated
        have refused := Contribution.merge_eq_error_iff.mpr ⟨unrelated, rfl⟩
        rw [merges] at refused
        cases refused
      simp only [combine, merges, reduceCtorEq, Option.some.injEq, false_iff]
      rintro ⟨_, rfl, unrelated, -⟩
      exact related unrelated
    | error mismatch =>
      obtain ⟨unrelated, rfl⟩ := Contribution.merge_eq_error_iff.mp merges
      simp [combine, merges, unrelated, eq_comm]

/-- The writes of a call add up to its operation. -/
theorem call_eq (o : Outcome) (c : Call) : o.call c =
    match o.operate c with
    | .ok o' => (.ok (), o')
    | .error reason => (.error reason, o) := by
  cases c with
  | merge slot c member? => exact Editing.addUpTo_merge o slot c member?
  | addAttribute slot member fragment => exact Editing.addUpTo_addAttribute o slot member fragment
  | record kind target message => exact Editing.addUpTo_record o kind target message
  | recordInvocation invocation => exact Editing.addUpTo_recordInvocation o invocation
  | consume => exact Editing.addUpTo_consume o

/-- A call with a contribution merges it. -/
theorem operate_of_merging (merging : c.merging? o.family = some m) :
    o.operate c = o.merge m.slot m.value m.member? := by
  cases c with
  | merge slot value member? =>
    cases merging
    rfl
  | addAttribute slot member fragment =>
    obtain ⟨value, written, rfl⟩ := Option.map_eq_some_iff.mp merging
    simp only [operate, addAttribute, written]
  | record kind target message => cases merging
  | recordInvocation invocation => cases merging
  | consume => cases merging

/-- A call without a contribution is not supported, or it is refused only by an outcome that was
handed on. -/
theorem operate_of_no_merging (merging : c.merging? o.family = none)
    (supported : c.Supported o.family) :
    o.operate c = o.whenOpen (.ok (o.noting c)) := by
  cases c with
  | merge slot value member? => cases merging
  | addAttribute slot member fragment =>
    exact absurd supported
      (Contribution.write?_attribute_eq_none_iff.mp (Option.map_eq_none_iff.mp merging))
  | record kind target message => rfl
  | recordInvocation invocation => rfl
  | consume => rfl

theorem supported_of_merging (merging : c.merging? o.family = some m) : c.Supported o.family := by
  cases c with
  | addAttribute slot member fragment =>
    obtain ⟨value, written, rfl⟩ := Option.map_eq_some_iff.mp merging
    by_contra unsupported
    rw [Contribution.write?_attribute_eq_none_iff.mpr unsupported] at written
    cases written
  | merge slot value member? => trivial
  | record kind target message => trivial
  | recordInvocation invocation => trivial
  | consume => trivial

/-- On an open outcome only the shapes decide about a merge under a name. -/
theorem operate_of_named (merging : c.merging? o.family = some m) (isOpen : o.consumed = false)
    (named : m.Named) :
    o.operate c = (combine (o.at? m.slot m.name) m.value).map (o.taking m) := by
  rw [operate_of_merging merging, merge_of_open isOpen _ named]
  rfl

theorem operate_of_merges (merging : c.merging? o.family = some m) (merges : o.Merges m merged) :
    o.operate c = .ok (o.taking m merged) := by
  rw [operate_of_named merging merges.isOpen merges.named, merges.combined]
  rfl

theorem operate_of_refuses (h : o.Refuses c reason) : o.operate c = .error reason := by
  cases h with
  | noAttributes unsupported =>
    simp only [operate, addAttribute, Contribution.write?_attribute_eq_none_iff.mpr unsupported]
  | consumed supported consumed =>
    cases merging : c.merging? o.family with
    | none => rw [operate_of_no_merging merging supported, whenOpen, if_pos consumed]
    | some m => rw [operate_of_merging merging, merge, whenOpen, if_pos consumed]
  | missingMember merging isOpen unnamed =>
    obtain ⟨isMember, missing⟩ := Classical.not_imp.mp unnamed
    have isNone := Option.not_isSome_iff_eq_none.mp missing
    rw [operate_of_merging merging, merge, whenOpen, isOpen, isMember, isNone]
    rfl
  | mismatch merging isOpen named atPlace unrelated unrelated' =>
    rw [operate_of_named merging isOpen named,
      combine_eq_error_iff.mpr ⟨_, atPlace, ⟨unrelated, unrelated'⟩, rfl⟩]
    rfl

/-- An open outcome takes a contribution in, unless its name is missing or its place holds one that
it cannot be merged with. -/
theorem merges_or_refuses (merging : c.merging? o.family = some m) :
    (∃ merged, o.Merges m merged) ∨ ∃ reason, o.Refuses c reason := by
  cases isOpen : o.consumed with
  | true => exact .inr ⟨_, .consumed (supported_of_merging merging) isOpen⟩
  | false =>
    by_cases named : m.Named
    · cases combined : combine (o.at? m.slot m.name) m.value with
      | ok merged => exact .inl ⟨merged, isOpen, named, combined⟩
      | error reason =>
        obtain ⟨held, atPlace, ⟨unrelated, unrelated'⟩, rfl⟩ := combine_eq_error_iff.mp combined
        exact .inr ⟨_, .mismatch merging isOpen named atPlace unrelated unrelated'⟩
    · exact .inr ⟨_, .missingMember merging isOpen named⟩

/-- Everything that a call can do. -/
theorem call_cases (o : Outcome) (c : Call) :
    (∃ reason, o.Refuses c reason ∧ o.call c = (.error reason, o)) ∨
    (∃ m merged, c.merging? o.family = some m ∧ o.Merges m merged ∧
      o.call c = (.ok (), o.taking m merged)) ∨
    (c.merging? o.family = none ∧ o.consumed = false ∧ o.call c = (.ok (), o.noting c)) := by
  have refused : (∃ reason, o.Refuses c reason) →
      ∃ reason, o.Refuses c reason ∧ o.call c = (.error reason, o) := by
    rintro ⟨reason, refuses⟩
    exact ⟨reason, refuses, by rw [call_eq, operate_of_refuses refuses]⟩
  cases merging : c.merging? o.family with
  | some m =>
    rcases merges_or_refuses merging with ⟨merged, merges⟩ | refuses
    · exact .inr (.inl ⟨m, merged, rfl, merges, by rw [call_eq, operate_of_merges merging merges]⟩)
    · exact .inl (refused refuses)
  | none =>
    by_cases supported : c.Supported o.family
    · cases isOpen : o.consumed with
      | true => exact .inl (refused ⟨_, .consumed supported isOpen⟩)
      | false =>
        refine .inr (.inr ⟨rfl, rfl, ?_⟩)
        rw [call_eq, operate_of_no_merging merging supported, whenOpen, isOpen]
        rfl
    · cases c with
      | addAttribute slot member fragment => exact .inl (refused ⟨_, .noAttributes supported⟩)
      | merge slot value member? => exact absurd trivial supported
      | record kind target message => exact absurd trivial supported
      | recordInvocation invocation => exact absurd trivial supported
      | consume => exact absurd trivial supported

/-- A call fails for exactly the reasons that `Refuses` tells. -/
theorem call_eq_error_iff : (o.call c).1 = .error reason ↔ o.Refuses c reason := by
  constructor
  · intro failed
    rcases o.call_cases c with ⟨_, refuses, eq⟩ | ⟨m, merged, -, -, eq⟩ | ⟨-, -, eq⟩
    · rw [eq] at failed
      cases failed
      exact refuses
    · rw [eq] at failed
      cases failed
    · rw [eq] at failed
      cases failed
  · intro refuses
    rw [call_eq, operate_of_refuses refuses]

/-- A call that fails has changed nothing. -/
theorem call_of_error (failed : (o.call c).1 = .error reason) : (o.call c).2 = o := by
  rw [call_eq, operate_of_refuses (call_eq_error_iff.mp failed)]

/-- An outcome that was handed on refuses every call. -/
theorem call_of_consumed (consumed : o.consumed = true) :
    ∃ reason, o.call c = (.error reason, o) := by
  rcases o.call_cases c with ⟨reason, -, eq⟩ | ⟨m, merged, -, merges, -⟩ | ⟨-, isOpen, -⟩
  · exact ⟨reason, eq⟩
  · exact absurd consumed (by simp [merges.isOpen])
  · exact absurd consumed (by simp [isOpen])

end Step

section Runs

variable (o : Outcome) (calls more : List Call)

theorem after_cons (c : Call) : o.after (c :: calls) = (o.call c).2.after calls := rfl

theorem after_append : o.after (calls ++ more) = (o.after calls).after more := List.foldl_append ..

/-- No call changes an outcome that was handed on. -/
theorem after_of_consumed (consumed : o.consumed = true) : o.after calls = o := by
  induction calls with
  | nil => rfl
  | cons c calls ih =>
    obtain ⟨reason, eq⟩ := call_of_consumed (c := c) consumed
    rw [after_cons, eq]
    exact ih

/-- The hand-overs that are accepted are told by the outcome: there was one more when it was handed
on in between. -/
theorem count_consume_accepted :
    o.consumed.toNat + (o.accepted calls).count .consume = (o.after calls).consumed.toNat := by
  induction calls generalizing o with
  | nil => rfl
  | cons c calls ih =>
    rw [after_cons, accepted]
    rcases o.call_cases c with
      ⟨reason, -, eq⟩ | ⟨m, merged, merging, -, eq⟩ | ⟨-, isOpen, eq⟩
    · simp only [eq]
      exact ih o
    · have stays : (o.taking m merged).consumed = o.consumed := (o.put_sameVisit ..).consumed
      have other : c ≠ .consume := by
        rintro rfl
        cases merging
      simp only [eq]
      rw [List.count_cons_of_ne other, ← stays]
      exact ih _
    · have later := ih (o.noting c)
      simp only [eq]
      rw [← later]
      by_cases handOver : c = .consume
      · subst handOver
        have handed : (o.noting .consume).consumed = true := rfl
        rw [List.count_cons_self, isOpen, handed]
        simp only [Bool.toNat_false, Bool.toNat_true]
        omega
      · have stays : (o.noting c).consumed = o.consumed := by
          cases c <;> first | rfl | exact absurd rfl handOver
        rw [List.count_cons_of_ne handOver, stays]

/-- An outcome is handed on at most once. -/
theorem count_consume_le_one : (o.accepted calls).count .consume ≤ 1 := by
  have accounted := o.count_consume_accepted calls
  have bound := (o.after calls).consumed.toNat_le
  omega

theorem consumed_after_iff :
    (o.after calls).consumed = true ↔ o.consumed = true ∨ .consume ∈ o.accepted calls := by
  have accounted := o.count_consume_accepted calls
  have bound := (o.after calls).consumed.toNat_le
  rw [← Bool.toNat_eq_one, ← Bool.toNat_eq_one, ← List.count_pos_iff]
  omega

end Runs

/-- An outcome under any calls:
it is handed on at most once, and exactly when the hand-over is accepted;
from then on every call is refused, by the family when it lacks the means and else because the
outcome was handed on, and no call changes the outcome;
at all times a call makes the writes of its operation, or none when the operation is refused;
a call fails for exactly the reasons that `Refuses` tells, and leaves the outcome as it was. -/
theorem after_consumes_once (o : Outcome) (calls : List Call) :
    let r := o.after calls
    ((o.accepted calls).count .consume ≤ 1 ∧
      (r.consumed = true ↔ o.consumed = true ∨ .consume ∈ o.accepted calls)) ∧
    (r.consumed = true →
      (∀ c : Call, c.Supported r.family → (r.call c).1 = .error (.consumed r.kind r.name)) ∧
      (∀ slot member fragment, ¬(r.family.get slot).TakesAttributes →
        (r.call (.addAttribute slot member fragment)).1 =
          .error (.noAttributes r.family.name slot)) ∧
      ∀ more, r.after more = r) ∧
    (∀ c, r.call c =
      match r.operate c with
      | .ok o' => (.ok (), o')
      | .error reason => (.error reason, r)) ∧
    ∀ c reason, ((r.call c).1 = .error reason ↔ r.Refuses c reason) ∧
      ((r.call c).1 = .error reason → (r.call c).2 = r) := by
  intro r
  refine ⟨⟨o.count_consume_le_one calls, o.consumed_after_iff calls⟩, fun consumed => ⟨?_, ?_, ?_⟩,
    r.call_eq, fun _ _ => ⟨call_eq_error_iff, call_of_error⟩⟩
  · intro c supported
    exact call_eq_error_iff.mpr (.consumed supported consumed)
  · intro slot member fragment unsupported
    exact call_eq_error_iff.mpr (.noAttributes unsupported)
  · intro more
    exact r.after_of_consumed more consumed

/-- Calls that hand an outcome on twice. One contribution to a module is refused, and so is an
attribute. -/
def handOvers : List Call :=
  [.mergeFunction (.empty .pythonFunction), .mergeModule (.empty .pythonModule),
    .mergeModule (.empty .pythonFunction), .addCaseAttribute "x" "a", .consume,
    .mergeType (.empty .pythonType), .mergeCase "x" (.empty .pythonCase), .consume]

/-- The second hand-over is refused, and so is everything that follows. -/
theorem after_consumes_once_python :
    let r := (start .python .record "point").after handOvers
    r.consumed = true ∧
      (r.call .consume).1 = .error (.consumed .record "point") ∧ (r.call .consume).2 = r ∧
      (r.call (.addFieldAttribute "x" "a")).1 = .error (.noAttributes "python" .field) ∧
      ∀ more, r.after more = r := by
  intro r
  have consumed : r.consumed = true := by decide
  obtain ⟨-, closed, -, atomic⟩ := after_consumes_once (start .python .record "point") handOvers
  obtain ⟨refused, unsupported, final⟩ := closed consumed
  have again : (r.call .consume).1 = .error (.consumed .record "point") := refused .consume trivial
  have unchanged : (r.call .consume).2 = r := (atomic .consume _).2 again
  have noAttributes := unsupported .field "x" "a" (by decide)
  exact ⟨consumed, again, unchanged, noAttributes, final⟩

end Outcome

end SchemaWeaver
