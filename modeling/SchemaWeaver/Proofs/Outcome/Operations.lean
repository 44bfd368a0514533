import SchemaWeaver.Outcome
import SchemaWeaver.Proofs.OrderedMap

/-!
# What the operations on an outcome do

An outcome has places: the slots, and for the slots of members the names. A merge writes one place
and the action, a record adds to a list, and nothing else changes. On an open outcome a record is
never refused, and whether a merge is refused depends on the place alone.
-/

namespace SchemaWeaver

namespace Outcome

/-- The outcome with more diagnostics. -/
def told (o : Outcome) (diagnostics : List Diagnostic) : Outcome :=
  { o with diagnostics := o.diagnostics ++ diagnostics }

/-- The outcome with one more hook call. -/
def called (o : Outcome) (invocation : Invocation) : Outcome :=
  { o with invocations := o.invocations ++ [invocation] }

/-- Two outcomes of visits to the same node, handed on both or neither. -/
structure SameVisit (o o' : Outcome) : Prop where
  family : o'.family = o.family
  kind : o'.kind = o.kind
  name : o'.name = o.name
  consumed : o'.consumed = o.consumed

theorem SameVisit.refl (o : Outcome) : o.SameVisit o := ⟨rfl, rfl, rfl, rfl⟩

theorem SameVisit.trans {a b c : Outcome} (hab : a.SameVisit b) (hbc : b.SameVisit c) :
    a.SameVisit c :=
  ⟨hbc.family.trans hab.family, hbc.kind.trans hab.kind, hbc.name.trans hab.name,
    hbc.consumed.trans hab.consumed⟩

@[simp] theorem told_nil (o : Outcome) : o.told [] = o := by simp [told]

@[simp] theorem told_told (o : Outcome) (ds es : List Diagnostic) :
    (o.told ds).told es = o.told (ds ++ es) := by
  simp [told]

@[simp] theorem told_diagnostics (o : Outcome) (ds : List Diagnostic) :
    (o.told ds).diagnostics = o.diagnostics ++ ds := rfl

@[simp] theorem told_invocations (o : Outcome) (ds : List Diagnostic) :
    (o.told ds).invocations = o.invocations := rfl

@[simp] theorem called_diagnostics (o : Outcome) (i : Invocation) :
    (o.called i).diagnostics = o.diagnostics := rfl

theorem sameVisit_told (o : Outcome) (ds : List Diagnostic) : o.SameVisit (o.told ds) :=
  ⟨rfl, rfl, rfl, rfl⟩

theorem record_of_open {o : Outcome} (h : o.consumed = false) (kind : DiagnosticKind)
    (target message : String) :
    o.record kind target message = .ok (o.told [o.diagnostic kind target message]) := by
  simp [record, whenOpen, h, told]

theorem recordInvocation_of_open {o : Outcome} (h : o.consumed = false) (i : Invocation) :
    o.recordInvocation i = .ok (o.called i) := by
  simp [recordInvocation, whenOpen, h, called]

theorem put_sameVisit (o : Outcome) (slot : Slot) (member : String) (c : Contribution) :
    o.SameVisit (o.put slot member c) := by
  cases slot <;> exact ⟨rfl, rfl, rfl, rfl⟩

@[simp] theorem put_diagnostics (o : Outcome) (slot : Slot) (member : String) (c : Contribution) :
    (o.put slot member c).diagnostics = o.diagnostics := by
  cases slot <;> rfl

@[simp] theorem put_invocations (o : Outcome) (slot : Slot) (member : String) (c : Contribution) :
    (o.put slot member c).invocations = o.invocations := by
  cases slot <;> rfl

@[simp] theorem put_action (o : Outcome) (slot : Slot) (member : String) (c : Contribution) :
    (o.put slot member c).action = o.action := by
  cases slot <;> rfl

/-- Where something is held already, the two are merged. -/
theorem merge_of_combine {held c merged : Contribution}
    (h : combine (some held) c = .ok merged) : held.merge c = .ok merged := by
  cases merges : held.merge c with
  | ok both =>
    rw [combine, merges] at h
    cases h
    rfl
  | error mismatch =>
    rw [combine, merges] at h
    cases h

/-- What a merge that succeeds has done. -/
theorem merge_eq_ok {o o' : Outcome} {slot : Slot} {c : Contribution} {member? : Option String}
    (h : o.merge slot c member? = .ok o') :
    ∃ merged, combine (o.at? slot (member?.getD "")) c = .ok merged ∧
      o' = { o.put slot (member?.getD "") merged with action := o.action.max c.action } := by
  unfold merge whenOpen at h
  split at h
  · cases h
  split at h
  · cases h
  dsimp only at h
  cases hc : combine (o.at? slot (member?.getD "")) c with
  | error reason => rw [hc] at h; cases h
  | ok merged =>
    rw [hc] at h
    cases h
    exact ⟨merged, rfl, rfl⟩

theorem sameVisit_merge {o o' : Outcome} {slot : Slot} {c : Contribution}
    {member? : Option String} (h : o.merge slot c member? = .ok o') : o.SameVisit o' := by
  obtain ⟨merged, -, rfl⟩ := merge_eq_ok h
  have same := o.put_sameVisit slot (member?.getD "") merged
  exact ⟨same.family, same.kind, same.name, same.consumed⟩

/-- A merge neither tells anything nor records a call. -/
theorem merge_keeps_entries {o o' : Outcome} {slot : Slot} {c : Contribution}
    {member? : Option String} (h : o.merge slot c member? = .ok o') :
    o'.diagnostics = o.diagnostics ∧ o'.invocations = o.invocations := by
  obtain ⟨merged, -, rfl⟩ := merge_eq_ok h
  exact ⟨o.put_diagnostics _ _ _, o.put_invocations _ _ _⟩

/-- Merging does not look at what was told and called, and leaves it as it is. -/
theorem merge_of_entries (o : Outcome) (ds : List Diagnostic) (is : List Invocation) (slot : Slot)
    (c : Contribution) (member? : Option String) :
    { o with diagnostics := ds, invocations := is }.merge slot c member? =
      (o.merge slot c member?).map fun merged =>
        { merged with diagnostics := ds, invocations := is } := by
  unfold merge whenOpen
  dsimp only
  split
  · rfl
  split
  · rfl
  have held : { o with diagnostics := ds, invocations := is }.at? slot (member?.getD "") =
      o.at? slot (member?.getD "") := by
    cases slot <;> rfl
  rw [held]
  cases combine (o.at? slot (member?.getD "")) c with
  | error reason => rfl
  | ok merged => cases slot <;> rfl

/-- Merging commutes with a change of what was told and called. -/
theorem merge_mapEntries (o : Outcome) (f : List Diagnostic → List Diagnostic)
    (g : List Invocation → List Invocation) (slot : Slot) (c : Contribution)
    (member? : Option String) :
    { o with diagnostics := f o.diagnostics, invocations := g o.invocations }.merge slot c member? =
      (o.merge slot c member?).map fun merged =>
        { merged with
          diagnostics := f merged.diagnostics, invocations := g merged.invocations } := by
  rw [merge_of_entries]
  cases h : o.merge slot c member? with
  | error reason => rfl
  | ok merged =>
    obtain ⟨told, called⟩ := merge_keeps_entries h
    simp only [Except.map, told, called]

/-- On an open outcome only the shapes decide about a merge under a member's name. -/
theorem merge_of_open {o : Outcome} (h : o.consumed = false) {slot : Slot} (c : Contribution)
    {member? : Option String} (named : slot.isMember = true → member?.isSome = true) :
    o.merge slot c member? =
      (combine (o.at? slot (member?.getD "")) c).map fun merged =>
        { o.put slot (member?.getD "") merged with action := o.action.max c.action } := by
  have present : (slot.isMember && member?.isNone) = false := by
    cases hs : slot.isMember with
    | false => rfl
    | true => simpa using named hs
  simp only [merge, whenOpen, h, present, Bool.false_eq_true, if_false]

theorem merge_eq_error {o : Outcome} (h : o.consumed = false) {slot : Slot} {c : Contribution}
    {member? : Option String} (named : slot.isMember = true → member?.isSome = true)
    {reason : Refusal} (refused : o.merge slot c member? = .error reason) :
    ∃ mismatch, reason = .mismatch mismatch := by
  rw [merge_of_open h c named] at refused
  unfold combine at refused
  split at refused
  · cases refused
  split at refused
  · cases refused
  · cases refused
    exact ⟨_, rfl⟩

/-- The contributions to members in a slot, by their names. -/
def members (o : Outcome) : Slot → OrderedMap Contribution
  | .field => o.ofFields
  | .case => o.ofCases
  | _ => ∅

theorem at?_told (o : Outcome) (diagnostics : List Diagnostic) (slot : Slot) (name : String) :
    (o.told diagnostics).at? slot name = o.at? slot name := by
  cases slot <;> rfl

theorem at?_called (o : Outcome) (invocation : Invocation) (slot : Slot) (name : String) :
    (o.called invocation).at? slot name = o.at? slot name := by
  cases slot <;> rfl

theorem members_told (o : Outcome) (diagnostics : List Diagnostic) (slot : Slot) :
    (o.told diagnostics).members slot = o.members slot := by
  cases slot <;> rfl

theorem members_called (o : Outcome) (invocation : Invocation) (slot : Slot) :
    (o.called invocation).members slot = o.members slot := by
  cases slot <;> rfl

theorem at?_eq_find? (o : Outcome) {slot : Slot} (h : slot.isMember = true) (name : String) :
    o.at? slot name = (o.members slot).find? name := by
  cases slot <;> first | rfl | cases h

theorem at?_put (o : Outcome) (slot slot' : Slot) (member member' : String) (c : Contribution) :
    (o.put slot member c).at? slot' member' =
      if slot = slot' ∧ (slot'.isMember = true → member = member') then some c
      else o.at? slot' member' := by
  cases slot <;> cases slot' <;>
    simp [put, at?, Slot.isMember, OrderedMap.find?_insert, eq_comm]

theorem keys_members_put (o : Outcome) (slot slot' : Slot) (member : String) (c : Contribution)
    (h : slot'.isMember = true) :
    ((o.put slot member c).members slot').keys =
      if slot = slot' ∧ member ∉ (o.members slot').keys then (o.members slot').keys ++ [member]
      else (o.members slot').keys := by
  cases slot <;> cases slot' <;>
    simp [put, members, Slot.isMember, OrderedMap.keys_insert] at h ⊢

/-- Only members are told apart by their names. -/
theorem at?_congr (o : Outcome) {slot : Slot} {name name' : String}
    (h : slot.isMember = true → name = name') : o.at? slot name = o.at? slot name' := by
  cases slot <;> first | rfl | rw [h rfl]

/-- The contributions of an outcome are those at its places. -/
theorem mem_contributions_iff {o : Outcome} {c : Contribution} :
    c ∈ o.contributions ↔ ∃ slot name, o.at? slot name = some c := by
  simp only [contributions, List.mem_append, Option.mem_toList, OrderedMap.mem_values_iff]
  constructor
  · rintro ((((ofType | ofFunction) | ofModule) | ⟨name, ofField⟩) | ⟨name, ofCase⟩)
    · exact ⟨.type, "", ofType⟩
    · exact ⟨.function, "", ofFunction⟩
    · exact ⟨.module, "", ofModule⟩
    · exact ⟨.field, name, ofField⟩
    · exact ⟨.case, name, ofCase⟩
  · rintro ⟨slot, name, held⟩
    cases slot with
    | type => exact .inl (.inl (.inl (.inl held)))
    | function => exact .inl (.inl (.inl (.inr held)))
    | module => exact .inl (.inl (.inr held))
    | field => exact .inl (.inr ⟨name, held⟩)
    | case => exact .inr ⟨name, held⟩

end Outcome

end SchemaWeaver
