import SchemaWeaver.Proofs.Outcome.Editing
import SchemaWeaver.Proofs.Traversal.Dispatch

/-!
# Processing a node in place

Processing is told here as a computation that changes one outcome in place, write by write, so that
what was written before a failure stays written. It ends as processing does, and where it fails the
outcome is as it was: an open outcome does not fail at all, and one that was handed on refuses the
first write, which comes before any hook is called.
-/

namespace SchemaWeaver

open Fallible

/-- Computations of a run that change an outcome in place. What was done before a failure stays
done. -/
abbrev InPlace (σ : Type) := ExceptT Misuse (StateM (Outcome × Session σ))

theorem Stop.steps_eq_nil_iff {stop : Stop} : stop.steps = [] ↔ stop.node.annotations = [] := by
  rw [steps, List.map_eq_nil_iff, Directives.targets]
  cases stop.node.annotations with
  | nil => simp [distinct]
  | cons d rest => simp [distinct]

namespace InPlace

variable {σ α β : Type}

/-- A computation that does not touch the outcome. -/
def aside (m : Engine σ α) : InPlace σ α :=
  ExceptT.mk fun (o, session) =>
    let (result, next) := m.run.run session
    (result, (o, next))

/-- Writes to the outcome. -/
def write (edits : Editing Unit) : InPlace σ Unit :=
  ExceptT.mk fun (o, session) =>
    let (result, o') := edits.run.run o
    (result.mapError Misuse.refused, (o', session))

/-- Tells about one key that is set more than once. -/
def noteCollision (step : Step) (key : String) : InPlace σ Unit := do
  let message := Service.collisionMessage step key
  aside (Engine.log [⟨.warning, message⟩])
  write (Editing.record .keyCollision step.target message)

/-- Tells about the keys that are set more than once, if that is wanted. -/
def noteCollisions (s : Service σ) (step : Step) : InPlace σ Unit :=
  if s.config.warnOnKeyCollision then
    (Directives.collisions step.stop.node.annotations step.target).forM (noteCollision step)
  else pure ()

/-- Merges a contribution. That it cannot be merged is told; that the outcome was handed on is a
failure. -/
def mergeOrTell (step : Step) (c : Contribution) : InPlace σ Unit :=
  tryCatch (write (Editing.merge step.stop.slot c step.stop.member?)) fun
    | .missingIndex kind name => throw (.missingIndex kind name)
    | .refused (.consumed kind name) => throw (.refused (.consumed kind name))
    | .refused reason => do
      aside (Engine.log [Service.unmergedRecord step reason])
      write (Editing.record .unexpectedContribution step.target
        (Service.unmergedMessage step.stop reason))

/-- Settles the answer of a hook. -/
def settle (s : Service σ) (step : Step) : Answer → InPlace σ Unit
  | .nothing => pure ()
  | .contribution c =>
    if c.shape.Extends (s.registry.family.get step.stop.slot) then mergeOrTell step c
    else
      write (Editing.record .unexpectedContribution step.target
        (s.unexpectedMessage step.stop c.shape.name))
  | .foreign typeName =>
    write (Editing.record .unexpectedContribution step.target
      (s.unexpectedMessage step.stop typeName))
  | .failure message => do
    aside (Engine.log [Service.failureRecord step message])
    write (Editing.record .hookFailed step.target (Service.failureMessage step.stop message))

/-- Takes one target of a node to its visitor, if it has one, and settles the answer. -/
def consult (s : Service σ) (step : Step) : InPlace σ Unit := do
  let (found, records) := s.registry.dispatch step.target
  aside (Engine.log records)
  match found with
  | none =>
    write (Editing.record .unresolvedTarget step.target (Registry.missRecord step.target).message)
  | some v => do
    write (Editing.recordInvocation (Service.invocation step))
    let answer ← aside (Engine.call v (Service.hookCall step))
    settle s step answer

/-- Tells about the keys of a target that are set more than once, and takes it to its visitor. -/
def perform (s : Service σ) (step : Step) : InPlace σ Unit := do
  noteCollisions s step
  consult s step

/-- Takes every target of a node to its visitor. -/
def processNode (s : Service σ) (stop : Stop) : InPlace σ Unit :=
  if stop.lacksIndex then throw (.missingIndex stop.node.kind stop.node.name)
  else stop.steps.forM (perform s)

section Runs

variable {edits : Editing Unit} {m : Engine σ α} {o o' : Outcome} {session next : Session σ}

theorem run_write_ok (h : edits.run.run o = (.ok (), o')) :
    (write edits : InPlace σ Unit).run.run (o, session) = (.ok (), (o', session)) := by
  change ((edits.run.run o).1.mapError Misuse.refused, ((edits.run.run o).2, session)) = _
  rw [h]
  rfl

theorem run_write_error {reason : Refusal} (h : edits.run.run o = (.error reason, o')) :
    (write edits : InPlace σ Unit).run.run (o, session) =
      (.error (.refused reason), (o', session)) := by
  change ((edits.run.run o).1.mapError Misuse.refused, ((edits.run.run o).2, session)) = _
  rw [h]
  rfl

theorem run_aside {result : Except Misuse α} (h : m.run.run session = (result, next)) :
    (aside m).run.run (o, session) = (result, (o, next)) := by
  change ((m.run.run session).1, (o, (m.run.run session).2)) = _
  rw [h]

end Runs

/-- The ending of a computation that passes an outcome on, in place: it leaves the outcome that is
passed on, and another one when it fails. -/
def ending (left : Outcome) :
    Except Misuse Outcome × Session σ → Except Misuse Unit × Outcome × Session σ
  | (.ok o', next) => (.ok (), o', next)
  | (.error e, next) => (.error e, left, next)

/-- A computation in place ends like one that passes the outcome on. What a failure leaves of the
outcome is left open. -/
def Follows (w : InPlace σ Unit) (o : Outcome) (m : Engine σ Outcome) : Prop :=
  ∀ session, ∃ left, w.run.run (o, session) = ending left (m.run.run session)

namespace Follows

variable {o : Outcome}

theorem pure (o : Outcome) : Follows (Pure.pure () : InPlace σ Unit) o (Pure.pure o) :=
  fun _ => ⟨o, rfl⟩

theorem throw (o : Outcome) (e : Misuse) :
    Follows (MonadExcept.throw e : InPlace σ Unit) o (MonadExcept.throw e) :=
  fun _ => ⟨o, rfl⟩

/-- Writes that add up to an operation are the operation in place. -/
theorem write {edits : Editing Unit} {operation : Except Refusal Outcome}
    (adds : edits.AddUpTo o operation) :
    Follows (InPlace.write edits : InPlace σ Unit) o (Engine.attempt operation) := by
  intro session
  cases operation with
  | ok o' => exact ⟨o, run_write_ok adds⟩
  | error reason => exact ⟨o, run_write_error adds⟩

theorem aside_bind {m : Engine σ α} {w : α → InPlace σ Unit} {f : α → Engine σ Outcome}
    (next : ∀ a, Follows (w a) o (f a)) : Follows (aside m >>= w) o (m >>= f) := by
  intro session
  cases h : m.run.run session with
  | mk result after =>
    have here := run_aside (o := o) h
    cases result with
    | error e =>
      refine ⟨o, ?_⟩
      rw [run_bind_error here, run_bind_error h]
      rfl
    | ok a =>
      rw [run_bind_ok here, run_bind_ok h]
      exact next a after

theorem bind {w : InPlace σ Unit} {m : Engine σ Outcome} {w' : InPlace σ Unit}
    {f : Outcome → Engine σ Outcome} (first : Follows w o m) (next : ∀ o', Follows w' o' (f o')) :
    Follows (w >>= fun _ => w') o (m >>= f) := by
  intro session
  obtain ⟨left, here⟩ := first session
  cases h : m.run.run session with
  | mk result after =>
    rw [h] at here
    cases result with
    | error e =>
      refine ⟨left, ?_⟩
      rw [run_bind_error here, run_bind_error h]
      rfl
    | ok o' =>
      rw [run_bind_ok here, run_bind_ok h]
      exact next o' after

theorem forM {γ : Type} {w : γ → InPlace σ Unit} {f : Outcome → γ → Engine σ Outcome}
    (each : ∀ o x, Follows (w x) o (f o x)) (xs : List γ) (o : Outcome) :
    Follows (xs.forM w) o (xs.foldlM f o) := by
  induction xs generalizing o with
  | nil => exact pure o
  | cons x xs ih =>
    rw [List.foldlM_cons]
    exact (each o x).bind ih

end Follows

section Following

variable (s : Service σ) (step : Step) (o : Outcome)

theorem noteCollisions_follows : Follows (noteCollisions s step) o (s.noteCollisions step o) := by
  unfold noteCollisions Service.noteCollisions
  split
  · refine .forM (fun o key => ?_) _ o
    exact .aside_bind fun _ => .write (Editing.addUpTo_record ..)
  · exact .pure o

/-- A merge that is refused has left the outcome as it was, and the problem is recorded there. -/
theorem mergeOrTell_follows (c : Contribution)
    (fits : c.shape.Extends (s.registry.family.get step.stop.slot)) :
    Follows (mergeOrTell step c) o (s.settleContribution step o c) := by
  have merging := Editing.addUpTo_merge o step.stop.slot c step.stop.member?
  unfold Service.settleContribution
  rw [if_pos fits]
  intro session
  cases merges : o.merge step.stop.slot c step.stop.member? with
  | ok merged =>
    rw [merges] at merging
    exact ⟨o, run_tryCatch_ok (run_write_ok merging)⟩
  | error reason =>
    rw [merges] at merging
    unfold mergeOrTell
    rw [run_tryCatch_error (run_write_error merging)]
    cases reason with
    | consumed kind name => exact ⟨o, rfl⟩
    | missingMember slot =>
      exact Follows.aside_bind (fun _ => .write (Editing.addUpTo_record o _ _ _)) session
    | mismatch mismatch =>
      exact Follows.aside_bind (fun _ => .write (Editing.addUpTo_record o _ _ _)) session
    | noAttributes family slot =>
      exact Follows.aside_bind (fun _ => .write (Editing.addUpTo_record o _ _ _)) session

theorem settle_follows (answer : Answer) :
    Follows (settle s step answer) o (s.settle step o answer) := by
  cases answer with
  | nothing => exact .pure o
  | «foreign» typeName =>
    simp only [settle, Service.settle]
    exact .write (Editing.addUpTo_record ..)
  | failure message => exact .aside_bind fun _ => .write (Editing.addUpTo_record ..)
  | contribution c =>
    by_cases fits : c.shape.Extends (s.registry.family.get step.stop.slot)
    · simp only [settle, if_pos fits]
      exact mergeOrTell_follows s step o c fits
    · simp only [settle, Service.settle, Service.settleContribution, if_neg fits]
      exact .write (Editing.addUpTo_record ..)

theorem perform_follows : Follows (perform s step) o (s.perform o step) := by
  refine (noteCollisions_follows s step o).bind fun o => ?_
  cases found : s.registry.find? step.target with
  | none =>
    simp only [consult, Registry.dispatch, found]
    exact .aside_bind fun _ => .write (Editing.addUpTo_record ..)
  | some v =>
    simp only [consult, Registry.dispatch, found]
    refine .aside_bind fun _ => .bind (.write (Editing.addUpTo_recordInvocation ..)) fun o => ?_
    exact .aside_bind fun answer => settle_follows s step o answer

theorem processNode_follows (stop : Stop) :
    Follows (processNode s stop) o (s.processNode stop o) := by
  unfold processNode Service.processNode
  split
  · exact .throw o _
  · exact .forM (fun o step => perform_follows s step o) stop.steps o

end Following

section Consumed

variable {s : Service σ} {o : Outcome}

/-- What an outcome that was handed on refuses: it stays as it is, and so does the session but for
the log. -/
def Refused (w : InPlace σ Unit) (o : Outcome) : Prop :=
  ∀ session, ∃ records, w.run.run (o, session) =
    (.error (.refused (.consumed o.kind o.name)),
      (o, { session with log := session.log ++ records }))

theorem Refused.bind {w : InPlace σ Unit} {f : Unit → InPlace σ Unit} (h : Refused w o) :
    Refused (w >>= f) o := by
  intro session
  obtain ⟨records, run⟩ := h session
  exact ⟨records, run_bind_error run⟩

theorem Refused.after_log {w : Unit → InPlace σ Unit} (h : Refused (w ()) o)
    (records : List LogRecord) : Refused (aside (Engine.log records) >>= w) o := by
  intro session
  let logged : Session σ := { session with log := session.log ++ records }
  have written : (Engine.log records : Engine σ Unit).run.run session = (.ok (), logged) := rfl
  obtain ⟨more, run⟩ := h logged
  refine ⟨records ++ more, ?_⟩
  rw [run_bind_ok (run_aside written), run, ← List.append_assoc]

theorem refused_write {edits : Editing Unit} {operation : Except Refusal Outcome}
    (consumed : o.consumed = true) (adds : edits.AddUpTo o (o.whenOpen operation)) :
    Refused (write edits : InPlace σ Unit) o := by
  rw [Outcome.whenOpen, consumed] at adds
  intro session
  exact ⟨[], by rw [List.append_nil]; exact run_write_error adds⟩

theorem refused_record (consumed : o.consumed = true) (kind : DiagnosticKind)
    (target message : String) :
    Refused (write (Editing.record kind target message) : InPlace σ Unit) o :=
  refused_write consumed (Editing.addUpTo_record ..)

theorem refused_recordInvocation (consumed : o.consumed = true) (invocation : Invocation) :
    Refused (write (Editing.recordInvocation invocation) : InPlace σ Unit) o :=
  refused_write consumed (Editing.addUpTo_recordInvocation ..)

/-- Whether the target is unknown or has a visitor, a record comes first. -/
theorem refused_consult (consumed : o.consumed = true) (step : Step) :
    Refused (consult s step) o := by
  unfold consult
  cases found : s.registry.find? step.target with
  | none =>
    simp only [Registry.dispatch, found]
    exact .after_log (refused_record consumed _ _ _) _
  | some v =>
    simp only [Registry.dispatch, found]
    exact .after_log (refused_recordInvocation consumed _).bind _

theorem refused_perform (consumed : o.consumed = true) (step : Step) :
    Refused (perform s step) o := by
  have consulted : Refused (consult s step) o := refused_consult consumed step
  unfold perform noteCollisions
  split
  · cases Directives.collisions step.stop.node.annotations step.target with
    | nil => exact consulted
    | cons key keys => exact .bind (.bind (.after_log (refused_record consumed _ _ _) _))
  · exact consulted

/-- The first target of a node is refused already. -/
theorem refused_processNode (consumed : o.consumed = true) {stop : Stop}
    (indexed : stop.lacksIndex = false) (addressed : stop.node.annotations ≠ []) :
    Refused (processNode s stop) o := by
  rw [processNode, indexed]
  cases steps : stop.steps with
  | nil => exact absurd (Stop.steps_eq_nil_iff.mp steps) addressed
  | cons step later => exact (refused_perform consumed step).bind

theorem run_processNode_of_lacksIndex {stop : Stop} (lacks : stop.lacksIndex = true)
    (before : Outcome × Session σ) : (processNode s stop).run.run before =
      (.error (.missingIndex stop.node.kind stop.node.name), before) := by
  rw [processNode, lacks]
  rfl

end Consumed

end InPlace

namespace Service

variable {σ : Type}

/-- A computation fails as the one in place that follows it does. -/
theorem run_of_follows {w : InPlace σ Unit} {o : Outcome} {m : Engine σ Outcome}
    {session next : Session σ} (follows : w.Follows o m) {e : Misuse} {left : Outcome}
    (failed : w.run.run (o, session) = (.error e, (left, next))) :
    m.run.run session = (.error e, next) := by
  obtain ⟨_, same⟩ := follows session
  rw [failed] at same
  cases h : m.run.run session with
  | mk result after =>
    rw [h] at same
    cases result with
    | ok o' => cases same
    | error e' =>
      cases same
      rfl

variable {s : Service σ} {stop : Stop} {o : Outcome}

theorem processNode_of_lacksIndex (lacks : stop.lacksIndex = true) (session : Session σ) :
    (s.processNode stop o).run.run session =
      (.error (.missingIndex stop.node.kind stop.node.name), session) := by
  rw [processNode, lacks]
  rfl

theorem processNode_of_nil (indexed : stop.lacksIndex = false)
    (silent : stop.node.annotations = []) (session : Session σ) :
    (s.processNode stop o).run.run session = (.ok o, session) := by
  rw [processNode, indexed, Stop.steps_eq_nil_iff.mpr silent]
  rfl

theorem processNode_of_open (indexed : stop.lacksIndex = false) (isOpen : o.consumed = false)
    (session : Session σ) :
    ∃ o' next, (s.processNode stop o).run.run session = (.ok o', next) := by
  obtain ⟨log, run⟩ := s.foldlM_perform_refines stop.steps isOpen session
  rw [processNode, indexed]
  exact ⟨_, _, run⟩

/-- Processing is what it is in place, where a failure leaves the outcome as it was. -/
theorem run_inPlace (s : Service σ) (stop : Stop) (o : Outcome) (session : Session σ) :
    (InPlace.processNode s stop).run.run (o, session) =
      InPlace.ending o ((s.processNode stop o).run.run session) := by
  obtain ⟨left, ends⟩ := InPlace.processNode_follows s o stop session
  cases indexed : stop.lacksIndex with
  | true =>
    rw [processNode_of_lacksIndex indexed]
    exact InPlace.run_processNode_of_lacksIndex indexed _
  | false =>
    cases consumed : o.consumed with
    | false =>
      obtain ⟨o', next, run⟩ := s.processNode_of_open indexed consumed session
      rw [ends, run]
      rfl
    | true =>
      by_cases silent : stop.node.annotations = []
      · rw [ends, processNode_of_nil indexed silent]
        rfl
      · obtain ⟨records, refused⟩ := InPlace.refused_processNode consumed indexed silent session
        rw [run_of_follows (InPlace.processNode_follows s o stop) refused, refused]
        rfl

/-- An outcome that was handed on refuses to be processed when the node has annotations. -/
theorem processNode_of_consumed (indexed : stop.lacksIndex = false) (consumed : o.consumed = true)
    (session : Session σ) : ∃ records, (s.processNode stop o).run.run session =
      (if stop.node.annotations = [] then .ok o else .error (.refused (.consumed o.kind o.name)),
        { session with log := session.log ++ records }) := by
  by_cases silent : stop.node.annotations = []
  · refine ⟨[], ?_⟩
    rw [if_pos silent, processNode_of_nil indexed silent, List.append_nil]
  · obtain ⟨records, refused⟩ :=
      InPlace.refused_processNode (s := s) consumed indexed silent session
    refine ⟨records, ?_⟩
    rw [if_neg silent]
    exact run_of_follows (InPlace.processNode_follows s o stop) refused

/-- Processing a node never leaves a trace when it fails, as it shows in place: the outcome is the
one that it was. A field or a case without its position fails before anything else is done, whatever
the outcome. With an outcome that was handed on, processing fails exactly when the node has an
annotation, for whatever target. In any case the state of the visitors stays what it was, and
visitors that note their calls note none; only the log may have grown. -/
theorem processNode_spares_consumed (s : Service σ) (stop : Stop) (o : Outcome)
    (session : Session σ) :
    (InPlace.processNode s stop).run.run (o, session) =
        InPlace.ending o ((s.processNode stop o).run.run session) ∧
    (stop.lacksIndex = true → (s.processNode stop o).run.run session =
        (.error (.missingIndex stop.node.kind stop.node.name), session)) ∧
    (stop.lacksIndex = false → o.consumed = true →
      let result : Except Misuse Outcome :=
        if stop.node.annotations = [] then .ok o else .error (.refused (.consumed o.kind o.name))
      (∃ records, (s.processNode stop o).run.run session =
        (result, ⟨session.state, session.log ++ records, session.picks⟩)) ∧
      ∀ noted, ∃ records, (s.noting.processNode stop o).run.run
          ⟨(session.state, noted), session.log, session.picks⟩ =
        (result, ⟨(session.state, noted), session.log ++ records, session.picks⟩)) :=
  ⟨s.run_inPlace stop o session, fun lacks => processNode_of_lacksIndex lacks session,
    fun indexed consumed => ⟨processNode_of_consumed indexed consumed session,
      fun _ => processNode_of_consumed indexed consumed _⟩⟩

/-- A function with an annotation for the target `log`. -/
def loggedFunction : Stop :=
  ⟨.function ⟨⟨"greet", none, [logDirective (.text "")]⟩, [], none⟩, none⟩

/-- A field with an annotation for the target `log`, without its position. -/
def misplacedField : Stop :=
  ⟨.field ⟨⟨"x", none, [logDirective (.text "")]⟩, "u8"⟩, none⟩

/-- The visitor that counts its calls has counted none. -/
theorem processNode_spares_consumed_tiring :
    let o := { Outcome.start .rust .function "greet" with consumed := true }
    loggedFunction.lacksIndex = false ∧ o.consumed = true ∧ misplacedField.lacksIndex = true ∧
      (∃ records, (tiring.processNode loggedFunction o).run.run ⟨0, [], []⟩ =
        (.error (.refused (.consumed .function "greet")), ⟨0, records, []⟩)) ∧
      (InPlace.processNode tiring misplacedField).run.run (o, ⟨0, [], []⟩) =
        (.error (.missingIndex .field "x"), o, ⟨0, [], []⟩) := by
  intro o
  obtain ⟨-, -, refused⟩ := tiring.processNode_spares_consumed loggedFunction o ⟨0, [], []⟩
  obtain ⟨inPlace, misplaced, -⟩ := tiring.processNode_spares_consumed misplacedField o ⟨0, [], []⟩
  refine ⟨rfl, rfl, rfl, (refused rfl rfl).1, ?_⟩
  rw [inPlace, misplaced rfl]
  rfl

end Service

end SchemaWeaver
