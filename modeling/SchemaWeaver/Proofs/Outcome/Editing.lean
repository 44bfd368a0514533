import SchemaWeaver.Proofs.Contribution.Merge
import SchemaWeaver.Proofs.Fallible
import SchemaWeaver.Proofs.Outcome.Operations

/-!
# Changing an outcome write by write

An operation on an outcome is told here as the writes that it makes one after another, where a write
that was made stays when a later part is refused. The writes of every operation add up to it: they
end as the operation does, and an operation that is refused has written nothing.
-/

namespace SchemaWeaver

open Fallible

/-- Changes of an outcome, one write after another. What was written before a refusal stays
written. -/
abbrev Editing := ExceptT Refusal (StateM Outcome)

namespace Editing

/-- Goes on only with an outcome that was not handed on. -/
def requireOpen : Editing Unit := do
  let o ← get
  if o.consumed then throw (.consumed o.kind o.name)

/-- Merges a contribution into a slot. The place is written first, and then the action. -/
def merge (slot : Slot) (c : Contribution) (member? : Option String) : Editing Unit := do
  requireOpen
  if slot.isMember && member?.isNone then throw (.missingMember slot)
  let held? := (← get).at? slot (member?.getD "")
  let merged ← MonadExcept.ofExcept (Outcome.combine held? c)
  modify fun o => o.put slot (member?.getD "") merged
  if c.action = .skip then modify fun o => { o with action := .skip }

/-- Merges a contribution that consists of one attribute into the slot of a member. It is formed
before anything else is looked at. -/
def addAttribute (slot : Slot) (member fragment : String) : Editing Unit := do
  let family := (← get).family
  match (Contribution.empty (family.get slot)).write? "add_attribute" fragment with
  | none => throw (.noAttributes family.name slot)
  | some c => merge slot c (some member)

/-- Records a problem. -/
def record (kind : DiagnosticKind) (target message : String) : Editing Unit := do
  requireOpen
  modify fun o => o.told [o.diagnostic kind target message]

/-- Records a call of a hook. -/
def recordInvocation (invocation : Invocation) : Editing Unit := do
  requireOpen
  modify fun o => o.called invocation

/-- Hands the outcome on. -/
def consume : Editing Unit := do
  requireOpen
  modify fun o => { o with consumed := true }

/-- Writes that add up to an operation: they end as it does, and there are none when it is
refused. -/
def AddUpTo (edits : Editing Unit) (o : Outcome) (result : Except Refusal Outcome) : Prop :=
  edits.run.run o =
    match result with
    | .ok o' => (.ok (), o')
    | .error reason => (.error reason, o)

variable {o : Outcome}

theorem run_requireOpen (o : Outcome) : requireOpen.run.run o =
    (if o.consumed then .error (.consumed o.kind o.name) else .ok (), o) := by
  change ((if o.consumed then throw (.consumed o.kind o.name) else pure () : Editing Unit).run.run
    o) = _
  split <;> rfl

/-- What follows is only reached with an outcome that is open. -/
theorem AddUpTo.requireOpen {rest : Editing Unit} {result : Except Refusal Outcome}
    (h : o.consumed = false → rest.AddUpTo o result) :
    AddUpTo (do requireOpen; rest) o (o.whenOpen result) := by
  have look := run_requireOpen o
  unfold AddUpTo Outcome.whenOpen
  cases consumed : o.consumed with
  | true =>
    rw [consumed] at look
    exact run_bind_error look
  | false =>
    rw [consumed] at look
    exact (run_bind_ok look).trans (h consumed)

theorem addUpTo_record (o : Outcome) (kind : DiagnosticKind) (target message : String) :
    (record kind target message).AddUpTo o (o.record kind target message) :=
  .requireOpen fun _ => rfl

theorem addUpTo_recordInvocation (o : Outcome) (invocation : Invocation) :
    (recordInvocation invocation).AddUpTo o (o.recordInvocation invocation) :=
  .requireOpen fun _ => rfl

theorem addUpTo_consume (o : Outcome) : consume.AddUpTo o o.consume :=
  .requireOpen fun _ => rfl

/-- Whatever can refuse a merge comes before its first write. -/
theorem addUpTo_merge (o : Outcome) (slot : Slot) (c : Contribution) (member? : Option String) :
    (merge slot c member?).AddUpTo o (o.merge slot c member?) := by
  refine .requireOpen fun _ => ?_
  cases unnamed : slot.isMember && member?.isNone with
  | true => rfl
  | false =>
    have looked : (get : Editing Outcome).run.run o = (.ok o, o) := rfl
    simp only [AddUpTo, Bool.false_eq_true, if_false]
    rw [run_bind_ok looked]
    cases combined : Outcome.combine (o.at? slot (member?.getD "")) c with
    | error reason => rfl
    | ok merged =>
      have written : (o.put slot (member?.getD "") merged).action = o.action := o.put_action ..
      cases requested : c.action with
      | keep =>
        simp only [Except.map, Action.max_keep, ← written]
        rfl
      | skip =>
        simp only [Except.map, Action.max_skip]
        rfl

theorem addUpTo_addAttribute (o : Outcome) (slot : Slot) (member fragment : String) :
    (addAttribute slot member fragment).AddUpTo o (o.addAttribute slot member fragment) := by
  have looked : (get : Editing Outcome).run.run o = (.ok o, o) := rfl
  refine (run_bind_ok looked).trans ?_
  dsimp only [Outcome.addAttribute]
  cases (Contribution.empty (o.family.get slot)).write? "add_attribute" fragment with
  | none => rfl
  | some c => exact addUpTo_merge o slot c (some member)

end Editing

end SchemaWeaver
