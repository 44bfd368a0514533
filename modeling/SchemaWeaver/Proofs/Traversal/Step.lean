import SchemaWeaver.Proofs.Outcome.Operations
import SchemaWeaver.Proofs.Traversal.Refinement

/-!
# What one step does

A step splits into two parts that do not depend on each other. Asking the registry gives a reply:
the answer of the hook that was called, or nothing when no visitor is registered. Only this part
touches the state of the visitors, and it does not look at the outcome. Taking in the reply changes
the outcome and nothing else.

`perform_refines` says that a step on an open outcome does exactly these two things. The lemmas on
`settled` and `takenIn` say what a step can do to an outcome: it tells about its own target, records
its call, and changes contributions and the action by a merge or not at all. How an answer is
settled depends on the target, and on the kind and the name of the node, and not on what was told
and called before.
-/

namespace SchemaWeaver

namespace Stop

theorem member?_isSome (stop : Stop) (h : stop.slot.isMember = true) :
    stop.member?.isSome = true := by
  simp [member?, h]

theorem member?_congr {stop stop' : Stop} (kind_eq : stop'.node.kind = stop.node.kind)
    (name_eq : stop'.node.name = stop.node.name) : stop'.member? = stop.member? := by
  rw [member?, slot, kind_eq, name_eq, member?, slot]

end Stop

namespace Service

variable {σ : Type}

/-- Asks the registry about a step. The reply is what the hook of the target's visitor answers, and
nothing when the target has no visitor. -/
def reply (s : Service σ) (step : Step) : StateM σ (Option Answer) :=
  match s.registry.find? step.target with
  | none => pure none
  | some v => some <$> v.hook (hookCall step)

/-- The diagnostics on keys that several option maps of the target set. -/
def collisionDiagnostics (s : Service σ) (step : Step) (o : Outcome) : List Diagnostic :=
  if s.config.warnOnKeyCollision then
    (Directives.collisions step.stop.node.annotations step.target).map fun key =>
      o.diagnostic .keyCollision step.target (collisionMessage step key)
  else []

/-- The diagnostic on a target without a visitor. -/
def missDiagnostic (step : Step) (o : Outcome) : Diagnostic :=
  o.diagnostic .unresolvedTarget step.target (Registry.missRecord step.target).message

/-- The outcome into which an answer is merged, if it is: the answer is a contribution, its shape
fits the slot, and it can be merged with what the slot holds. -/
def merged? (s : Service σ) (step : Step) (o : Outcome) : Answer → Option Outcome
  | .contribution c =>
    if c.shape.Extends (s.registry.family.get step.stop.slot) then
      (o.merge step.stop.slot c step.stop.member?).toOption
    else none
  | _ => none

/-- The diagnostics on an answer that is not merged. -/
def complaints (s : Service σ) (step : Step) (o : Outcome) : Answer → List Diagnostic
  | .nothing => []
  | .foreign typeName =>
    [o.diagnostic .unexpectedContribution step.target (s.unexpectedMessage step.stop typeName)]
  | .failure message =>
    [o.diagnostic .hookFailed step.target (failureMessage step.stop message)]
  | .contribution c =>
    if c.shape.Extends (s.registry.family.get step.stop.slot) then
      match o.merge step.stop.slot c step.stop.member? with
      | .ok _ => []
      | .error reason =>
        [o.diagnostic .unexpectedContribution step.target (unmergedMessage step.stop reason)]
    else
      [o.diagnostic .unexpectedContribution step.target
        (s.unexpectedMessage step.stop c.shape.name)]

/-- The outcome once an answer is settled. -/
def settled (s : Service σ) (step : Step) (o : Outcome) (answer : Answer) : Outcome :=
  ((s.merged? step o answer).getD o).told (s.complaints step o answer)

/-- The outcome when the hook is called: the collisions are told and the call is recorded. -/
def asking (s : Service σ) (step : Step) (o : Outcome) : Outcome :=
  (o.told (s.collisionDiagnostics step o)).called (invocation step)

/-- The outcome once a step has its reply. -/
def takenIn (s : Service σ) (step : Step) (o : Outcome) : Option Answer → Outcome
  | none => o.told (s.collisionDiagnostics step o ++ [missDiagnostic step o])
  | some answer => s.settled step (s.asking step o) answer

/-- A step as a computation on the state of the visitors. -/
def take (s : Service σ) (o : Outcome) (step : Step) : StateM σ Outcome := do
  let reply ← s.reply step
  return s.takenIn step o reply

theorem merged?_eq_some {s : Service σ} {step : Step} {o merged : Outcome} {answer : Answer}
    (h : s.merged? step o answer = some merged) :
    ∃ c, answer = .contribution c ∧ o.merge step.stop.slot c step.stop.member? = .ok merged := by
  cases answer with
  | contribution c =>
    simp only [merged?] at h
    split at h
    · cases hm : o.merge step.stop.slot c step.stop.member? with
      | ok o' =>
        rw [hm] at h
        cases h
        exact ⟨c, rfl, hm⟩
      | error reason => rw [hm] at h; cases h
    · cases h
  | nothing => cases h
  | «foreign» typeName => cases h
  | failure message => cases h

section Answers

variable {s : Service σ} {step step' : Step}

/-- Whether an answer is merged depends on the kind and the name of the node. -/
theorem merged?_congr (kind_eq : step'.stop.node.kind = step.stop.node.kind)
    (name_eq : step'.stop.node.name = step.stop.node.name) (o : Outcome) (answer : Answer) :
    s.merged? step' o answer = s.merged? step o answer := by
  have slot_eq : step'.stop.slot = step.stop.slot := congrArg Slot.ofKind kind_eq
  cases answer with
  | contribution c =>
    rw [merged?, slot_eq, Stop.member?_congr kind_eq name_eq]
    rfl
  | nothing | «foreign» | failure => rfl

/-- What is told about an answer depends on the target as well. -/
theorem complaints_congr (target_eq : step'.target = step.target)
    (kind_eq : step'.stop.node.kind = step.stop.node.kind)
    (name_eq : step'.stop.node.name = step.stop.node.name) (o : Outcome) (answer : Answer) :
    s.complaints step' o answer = s.complaints step o answer := by
  have slot_eq : step'.stop.slot = step.stop.slot := congrArg Slot.ofKind kind_eq
  have unexpected : s.unexpectedMessage step'.stop = s.unexpectedMessage step.stop := by
    funext typeName
    rw [unexpectedMessage, kind_eq, slot_eq, unexpectedMessage]
  have unmerged : unmergedMessage step'.stop = unmergedMessage step.stop := by
    funext reason
    rw [unmergedMessage, kind_eq, unmergedMessage]
  have failed : failureMessage step'.stop = failureMessage step.stop := by
    funext message
    rw [failureMessage, kind_eq, failureMessage]
  cases answer with
  | contribution c =>
    rw [complaints, slot_eq, Stop.member?_congr kind_eq name_eq, unexpected, unmerged, target_eq]
    rfl
  | «foreign» typeName => rw [complaints, unexpected, target_eq, complaints]
  | failure message => rw [complaints, failed, target_eq, complaints]
  | nothing => rfl

/-- A change of what was told and called before is kept when an answer is merged. -/
theorem merged?_mapEntries (s : Service σ) (step : Step) (o : Outcome)
    (f : List Diagnostic → List Diagnostic) (g : List Invocation → List Invocation)
    (answer : Answer) :
    s.merged? step { o with diagnostics := f o.diagnostics, invocations := g o.invocations }
        answer =
      (s.merged? step o answer).map fun merged =>
        { merged with
          diagnostics := f merged.diagnostics, invocations := g merged.invocations } := by
  cases answer with
  | contribution c =>
    simp only [merged?, Outcome.merge_mapEntries]
    split
    · cases o.merge step.stop.slot c step.stop.member? <;> rfl
    · rfl
  | nothing | «foreign» | failure => rfl

/-- What is told about an answer does not depend on what was told and called before. -/
theorem complaints_mapEntries (s : Service σ) (step : Step) (o : Outcome)
    (f : List Diagnostic → List Diagnostic) (g : List Invocation → List Invocation)
    (answer : Answer) :
    s.complaints step { o with diagnostics := f o.diagnostics, invocations := g o.invocations }
        answer =
      s.complaints step o answer := by
  cases answer with
  | contribution c =>
    simp only [complaints, Outcome.merge_mapEntries]
    cases o.merge step.stop.slot c step.stop.member? <;> rfl
  | nothing | «foreign» | failure => rfl

end Answers

theorem sameVisit_settled (s : Service σ) (step : Step) (o : Outcome) (answer : Answer) :
    o.SameVisit (s.settled step o answer) := by
  unfold settled
  cases hm : s.merged? step o answer with
  | none => exact o.sameVisit_told _
  | some merged =>
    obtain ⟨c, -, merge⟩ := merged?_eq_some hm
    exact (Outcome.sameVisit_merge merge).trans (merged.sameVisit_told _)

/-- No reply makes an outcome the outcome of another visit, or hands it on. -/
theorem sameVisit_takenIn (s : Service σ) (step : Step) (o : Outcome) (reply : Option Answer) :
    o.SameVisit (s.takenIn step o reply) := by
  cases reply with
  | none => exact o.sameVisit_told _
  | some answer =>
    have asking : o.SameVisit (s.asking step o) := ⟨rfl, rfl, rfl, rfl⟩
    exact asking.trans (s.sameVisit_settled step _ answer)

theorem settled_diagnostics (s : Service σ) (step : Step) (o : Outcome) (answer : Answer) :
    (s.settled step o answer).diagnostics = o.diagnostics ++ s.complaints step o answer := by
  unfold settled
  cases hm : s.merged? step o answer with
  | none => rfl
  | some merged =>
    obtain ⟨c, -, merge⟩ := merged?_eq_some hm
    simp [(Outcome.merge_keeps_entries merge).1]

theorem exists_of_mem_collisionDiagnostics {s : Service σ} {step : Step} {o : Outcome}
    {d : Diagnostic} (h : d ∈ s.collisionDiagnostics step o) :
    ∃ key, d = o.diagnostic .keyCollision step.target (collisionMessage step key) := by
  unfold collisionDiagnostics at h
  split at h
  · obtain ⟨key, -, rfl⟩ := List.mem_map.mp h
    exact ⟨key, rfl⟩
  · cases h

theorem target_of_mem_collisionDiagnostics {s : Service σ} {step : Step} {o : Outcome}
    {d : Diagnostic} (h : d ∈ s.collisionDiagnostics step o) : d.target = step.target := by
  obtain ⟨key, rfl⟩ := exists_of_mem_collisionDiagnostics h
  rfl

theorem target_of_mem_complaints {s : Service σ} {step : Step} {o : Outcome} {answer : Answer}
    {d : Diagnostic} (h : d ∈ s.complaints step o answer) : d.target = step.target := by
  unfold complaints at h
  repeat' split at h
  all_goals simp only [List.mem_singleton, List.not_mem_nil] at h
  all_goals exact h ▸ rfl

/-- A step records one call when the target has a visitor, and none otherwise. -/
theorem takenIn_invocations (s : Service σ) (step : Step) (o : Outcome) (reply : Option Answer) :
    (s.takenIn step o reply).invocations =
      o.invocations ++ (if reply.isSome then [invocation step] else []) := by
  cases reply with
  | none => simp [takenIn]
  | some answer =>
    simp only [takenIn, settled, Outcome.told_invocations, Option.isSome_some, if_true]
    cases hm : s.merged? step (s.asking step o) answer with
    | none => rfl
    | some merged =>
      obtain ⟨c, -, merge⟩ := merged?_eq_some hm
      exact (Outcome.merge_keeps_entries merge).2

/-- The diagnostics on collisions are told one by one. -/
private theorem noteCollisions_refines (s : Service σ) (step : Step) {o : Outcome}
    (h : o.consumed = false) :
    Engine.Refines (s.noteCollisions step o) (pure (o.told (s.collisionDiagnostics step o))) := by
  unfold noteCollisions collisionDiagnostics
  split
  · generalize Directives.collisions step.stop.node.annotations step.target = keys
    induction keys generalizing o with
    | nil =>
      rw [List.map_nil, Outcome.told_nil]
      exact .pure o
    | cons key keys ih =>
      have note : Engine.Refines (noteCollision (σ := σ) step o key)
          (pure (o.told [o.diagnostic .keyCollision step.target (collisionMessage step key)])) :=
        (Engine.Refines.log _).bind_pure (.attempt (Outcome.record_of_open h _ _ _))
      rw [List.foldlM_cons, List.map_cons, ← List.singleton_append, ← Outcome.told_told]
      exact note.bind_pure (ih h)
  · rw [Outcome.told_nil]
    exact .pure o

private theorem settle_refines (s : Service σ) (step : Step) {o : Outcome}
    (h : o.consumed = false) (answer : Answer) :
    Engine.Refines (s.settle step o answer) (pure (s.settled step o answer)) := by
  cases answer with
  | nothing =>
    simp only [settled, merged?, complaints, Option.getD_none, Outcome.told_nil]
    exact .pure o
  | «foreign» typeName => exact .attempt (Outcome.record_of_open h _ _ _)
  | failure message =>
    exact (Engine.Refines.log _).bind_pure (.attempt (Outcome.record_of_open h _ _ _))
  | contribution c =>
    simp only [settle, settleContribution, settled, merged?, complaints]
    split
    · cases hm : o.merge step.stop.slot c step.stop.member? with
      | ok merged =>
        simp only [Except.toOption, Option.getD_some, Outcome.told_nil]
        exact .pure merged
      | error reason =>
        obtain ⟨mismatch, rfl⟩ := Outcome.merge_eq_error h step.stop.member?_isSome hm
        exact (Engine.Refines.log _).bind_pure (.attempt (Outcome.record_of_open h _ _ _))
    · exact .attempt (Outcome.record_of_open h _ _ _)

/-- A step on an open outcome asks the registry and takes in the reply. -/
theorem perform_refines (s : Service σ) {o : Outcome} (h : o.consumed = false) (step : Step) :
    Engine.Refines (s.perform o step) (s.take o step) := by
  have noted : (o.told (s.collisionDiagnostics step o)).consumed = false := h
  have asking : (s.asking step o).consumed = false := h
  unfold perform
  refine (s.noteCollisions_refines step h).bind_pure ?_
  cases hv : s.registry.find? step.target with
  | none =>
    simp only [Registry.dispatch, hv, take, reply, pure_bind]
    refine (Engine.Refines.log _).bind_pure (.attempt ?_)
    rw [Outcome.record_of_open noted, Outcome.told_told]
    rfl
  | some v =>
    simp only [Registry.dispatch, hv, take, reply, bind_map_left]
    refine (Engine.Refines.log _).bind_pure ?_
    refine (Engine.Refines.attempt (Outcome.recordInvocation_of_open noted _)).bind_pure ?_
    exact (Engine.Refines.call v _).bind_any fun answer =>
      s.settle_refines step asking answer

end Service

end SchemaWeaver
