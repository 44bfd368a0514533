import SchemaWeaver.Proofs.Outcome.Places
import SchemaWeaver.Proofs.Traversal.Collisions

/-!
# What becomes of every target

Every distinct target of a node is accounted for: by what its visitor replied, if it has one, and by
the ending that the reply leads to at the place of the node. An ending is told as one problem or
none, and at most one contribution is merged in it. Processing a node adds up the accounts of its
targets: the diagnostics are told target by target, and apart from them and the recorded calls the
outcome is the one that results from merging the contributions of the accounts one after another.
-/

namespace SchemaWeaver

/-- What becomes of a target at a node: it has no visitor; or the visitor has nothing to say, or
fails, or answers with something that does not fit the node, or with a contribution that cannot be
merged with what is there; or its contribution is merged. -/
inductive Ending where
  | unresolved
  | silent
  | failed (message : String)
  | unexpected (typeName : String)
  | unmergeable (mismatch : MergeMismatch)
  | merged (value : Contribution)
  deriving DecidableEq, Repr

namespace Ending

/-- The ending that a reply leads to at a place. -/
def ofReply (expected : Shape) (held? : Option Contribution) : Option Answer → Ending
  | none => unresolved
  | some .nothing => silent
  | some (.failure message) => failed message
  | some (.foreign typeName) => unexpected typeName
  | some (.contribution c) =>
    if c.shape.Extends expected then
      match held? with
      | none => merged c
      | some held =>
        if c.shape.Related held.shape then merged c
        else unmergeable ⟨c.shape.name, held.shape.name⟩
    else unexpected c.shape.name

section Contributed

variable {expected : Shape} {held? : Option Contribution} {held c : Contribution}

theorem ofReply_of_related (fits : c.shape.Extends expected)
    (related : ∀ held, held? = some held → c.shape.Related held.shape) :
    ofReply expected held? (some (.contribution c)) = merged c := by
  cases held? with
  | none => exact if_pos fits
  | some held => simp [ofReply, fits, related held rfl]

theorem ofReply_of_unrelated (fits : c.shape.Extends expected)
    (unrelated : ¬c.shape.Related held.shape) :
    ofReply expected (some held) (some (.contribution c)) =
      unmergeable ⟨c.shape.name, held.shape.name⟩ := by
  simp [ofReply, fits, unrelated]

theorem ofReply_of_unfit (unfit : ¬c.shape.Extends expected) :
    ofReply expected held? (some (.contribution c)) = unexpected c.shape.name :=
  if_neg unfit

end Contributed

/-- The contribution that is merged in an ending. -/
def merged? : Ending → Option Contribution
  | merged value => some value
  | _ => none

end Ending

/-- The account of a target: what its visitor replied, if it has one, and how it ended. -/
structure Account where
  target : String
  reply : Option Answer
  ending : Ending
  deriving DecidableEq, Repr

/-- The contributions that are merged in accounts. -/
def Account.values (accounts : List Account) : List Contribution :=
  accounts.filterMap fun a => a.ending.merged?

theorem Account.values_cons (a : Account) (accounts : List Account) :
    values (a :: accounts) = values [a] ++ values accounts := by
  rw [← List.singleton_append, values, List.filterMap_append]
  rfl

theorem Account.values_singleton (a : Account) : values [a] = a.ending.merged?.toList := by
  rw [values, List.filterMap_cons]
  cases a.ending.merged? <;> rfl

namespace Stop

/-- The contribution to a stop on its way into an outcome. -/
def merging (stop : Stop) (c : Contribution) : Outcome.Merging := ⟨stop.slot, c, stop.member?⟩

/-- The calls that merge contributions to a stop. -/
def mergeCalls (stop : Stop) (values : List Contribution) : List Outcome.Call :=
  (values.map stop.merging).map Outcome.Merging.call

/-- Whether a place is the one that a stop fills. -/
def Fills (stop : Stop) (slot : Slot) (name : String) : Prop :=
  stop.slot = slot ∧ (slot.isMember = true → stop.node.name = name)

/-- What an outcome holds at the place that a stop fills. -/
def held? (stop : Stop) (o : Outcome) : Option Contribution := o.at? stop.slot stop.node.name

end Stop

theorem Stop.named_merging (stop : Stop) (c : Contribution) : (stop.merging c).Named :=
  stop.member?_isSome

/-- A contribution to a stop goes to the place that the stop fills. -/
theorem Stop.goesTo_merging {stop : Stop} {c : Contribution} {slot : Slot} {name : String} :
    (stop.merging c).GoesTo slot name ↔ stop.Fills slot name := by
  refine and_congr_right fun same => imp_congr_right fun isMember => ?_
  have kept : (stop.merging c).name = stop.node.name := by
    change (if stop.slot.isMember then some stop.node.name else none).getD "" = stop.node.name
    rw [show stop.slot = slot from same, if_pos isMember, Option.getD_some]
  rw [kept]

theorem Stop.fills_self (stop : Stop) : stop.Fills stop.slot stop.node.name := ⟨rfl, fun _ => rfl⟩

namespace Outcome

/-- The outcome with more diagnostics and more hook calls. -/
def noted (o : Outcome) (diagnostics : List Diagnostic) (invocations : List Invocation) : Outcome :=
  { o with
    diagnostics := o.diagnostics ++ diagnostics
    invocations := o.invocations ++ invocations }

section Noted

variable (o : Outcome) (ds es : List Diagnostic) (is js : List Invocation)

@[simp] theorem noted_nil : o.noted [] [] = o := by
  simp [noted]

@[simp] theorem noted_noted : (o.noted ds is).noted es js = o.noted (ds ++ es) (is ++ js) := by
  simp [noted]

theorem told_eq_noted : o.told ds = o.noted ds [] := by
  simp [told, noted]

theorem at?_noted (slot : Slot) (name : String) :
    (o.noted ds is).at? slot name = o.at? slot name := by
  cases slot <;> rfl

/-- Merging does not look at what is noted, and leaves it as it is. -/
theorem call_noted (m : Merging) :
    (o.noted ds is).call m.call = ((o.call m.call).1, (o.call m.call).2.noted ds is) := by
  have merges : (o.noted ds is).operate m.call =
      (o.operate m.call).map fun merged => merged.noted ds is :=
    o.merge_mapEntries (· ++ ds) (· ++ is) m.slot m.value m.member?
  rw [call_eq, call_eq, merges]
  cases o.operate m.call <;> rfl

theorem after_noted (ms : List Merging) : (o.noted ds is).after (ms.map Merging.call) =
    (o.after (ms.map Merging.call)).noted ds is := by
  induction ms generalizing o with
  | nil => rfl
  | cons m ms ih => rw [List.map_cons, after_cons, call_noted, ih, after_cons]

end Noted

/-- Merges note nothing. -/
theorem entries_call (o : Outcome) (m : Merging) :
    (o.call m.call).2.diagnostics = o.diagnostics ∧
      (o.call m.call).2.invocations = o.invocations := by
  rcases o.call_cases m.call with ⟨_, -, eq⟩ | ⟨m', merged, -, -, eq⟩ | ⟨merging, -, -⟩
  · rw [eq]
    exact ⟨rfl, rfl⟩
  · rw [eq]
    exact ⟨o.put_diagnostics .., o.put_invocations ..⟩
  · cases merging

theorem entries_after (o : Outcome) (ms : List Merging) :
    (o.after (ms.map Merging.call)).diagnostics = o.diagnostics ∧
      (o.after (ms.map Merging.call)).invocations = o.invocations := by
  induction ms generalizing o with
  | nil => exact ⟨rfl, rfl⟩
  | cons m ms ih =>
    obtain ⟨diagnostics, invocations⟩ := o.entries_call m
    obtain ⟨diagnostics', invocations'⟩ := ih (o.call m.call).2
    exact ⟨diagnostics'.trans diagnostics, invocations'.trans invocations⟩

/-- Merges to a stop change no place but the one that it fills. -/
theorem at?_after_mergeCalls {o : Outcome} {stop : Stop} {slot : Slot} {name : String}
    (elsewhere : ¬stop.Fills slot name) (values : List Contribution) :
    (o.after (stop.mergeCalls values)).at? slot name = o.at? slot name := by
  induction values generalizing o with
  | nil => rfl
  | cons c values ih =>
    exact (ih (o := (o.call (stop.merging c).call).2)).trans
      (at?_call_of_elsewhere (mt Stop.goesTo_merging.mp elsewhere))

/-- Merges to a stop go on after a note. -/
theorem after_noted_after (o : Outcome) (stop : Stop) (values more : List Contribution)
    (ds : List Diagnostic) (is : List Invocation) :
    ((o.after (stop.mergeCalls values)).noted ds is).after (stop.mergeCalls more) =
      (o.after (stop.mergeCalls (values ++ more))).noted ds is := by
  simp only [Stop.mergeCalls, after_noted, ← after_append, ← List.map_append]

/-- An open outcome merges a contribution to a stop, or holds something unrelated there. -/
theorem merge_or_clash {o : Outcome} (isOpen : o.consumed = false) (stop : Stop)
    (c : Contribution) :
    ((∀ held, stop.held? o = some held → c.shape.Related held.shape) ∧
      o.merge stop.slot c stop.member? = .ok (o.after (stop.mergeCalls [c]))) ∨
    ∃ held, stop.held? o = some held ∧ ¬c.shape.Related held.shape ∧
      o.merge stop.slot c stop.member? = .error (.mismatch ⟨c.shape.name, held.shape.name⟩) := by
  have named := stop.named_merging c
  have place := Stop.goesTo_merging (c := c).mpr stop.fills_self
  have operates : o.operate (stop.merging c).call = o.merge stop.slot c stop.member? := rfl
  have reply := o.call_eq (stop.merging c).call
  rw [operates] at reply
  cases merges : o.merge stop.slot c stop.member? with
  | ok o' =>
    rw [merges] at reply
    have succeeds : (o.call (stop.merging c).call).1 = .ok () := by rw [reply]
    have after : o.after (stop.mergeCalls [c]) = o' := by
      change (o.call (stop.merging c).call).2 = o'
      rw [reply]
    exact .inl ⟨(call_eq_ok_iff_related isOpen named place).mp succeeds, by rw [after]⟩
  | error reason =>
    rw [merges] at reply
    have fails : (o.call (stop.merging c).call).1 = .error reason := by rw [reply]
    obtain ⟨held, atPlace, unrelated, rfl⟩ :=
      (call_eq_error_iff_unrelated isOpen named place).mp fails
    exact .inr ⟨held, atPlace, unrelated, rfl⟩

end Outcome

namespace Service

variable {σ : Type}

/-- The problem that an ending is told as, if it is one. -/
def problems (s : Service σ) (stop : Stop) (o : Outcome) (a : Account) : List Diagnostic :=
  let hook := stop.node.kind.hookName
  match a.ending with
  | .unresolved =>
    [o.diagnostic .unresolvedTarget a.target
      ("No visitor registered for annotation target '" ++ a.target ++ "'")]
  | .failed message => [o.diagnostic .hookFailed a.target (hook ++ " raised: " ++ message)]
  | .unexpected typeName =>
    [o.diagnostic .unexpectedContribution a.target
      (hook ++ " returned " ++ typeName ++ ", expected " ++
        (s.registry.family.get stop.slot).name)]
  | .unmergeable mismatch =>
    [o.diagnostic .unexpectedContribution a.target
      (hook ++ " returned a contribution that cannot be merged: " ++ mismatch.message)]
  | .silent | .merged _ => []

/-- Everything that is told about a target: first the keys that are set more than once. -/
def tellings (s : Service σ) (stop : Stop) (o : Outcome) (a : Account) : List Diagnostic :=
  s.collisionDiagnostics ⟨stop, a.target⟩ o ++ s.problems stop o a

/-- An account tells exactly what happened, where a place holds something. -/
structure Accounts (s : Service σ) (stop : Stop) (o : Outcome) (held? : Option Contribution)
    (a : Account) : Prop where
  unresolved_iff : (s.problems stop o a).map Diagnostic.kind = [.unresolvedTarget] ↔
    s.registry.contains a.target = false
  failed_iff : (s.problems stop o a).map Diagnostic.kind = [.hookFailed] ↔
    ∃ message, a.reply = some (.failure message)
  unexpected_iff : (s.problems stop o a).map Diagnostic.kind = [.unexpectedContribution] ↔
    (∃ typeName, a.reply = some (.foreign typeName)) ∨
    ∃ c, a.reply = some (.contribution c) ∧
      (¬c.shape.Extends (s.registry.family.get stop.slot) ∨
        ∃ held, held? = some held ∧ ¬c.shape.Related held.shape)
  length_le_one : (s.problems stop o a).length ≤ 1
  quiet_iff : s.problems stop o a = [] ↔
    a.reply = some .nothing ∨ ∃ c, a.ending = .merged c
  merged_iff : ∀ c, a.ending = .merged c ↔
    a.reply = some (.contribution c) ∧ c.shape.Extends (s.registry.family.get stop.slot) ∧
      ∀ held, held? = some held → c.shape.Related held.shape

section Step

variable {s : Service σ} {stop : Stop} {o : Outcome}

theorem accounts_ofReply {target : String} {reply : Option Answer} {held? : Option Contribution}
    (registered : reply.isSome = s.registry.contains target) :
    s.Accounts stop o held?
      ⟨target, reply, .ofReply (s.registry.family.get stop.slot) held? reply⟩ := by
  cases reply with
  | none => constructor <;> simp [problems, Ending.ofReply, Outcome.diagnostic, ← registered]
  | some answer =>
    cases answer with
    | nothing => constructor <;> simp [problems, Ending.ofReply, ← registered]
    | failure message =>
      constructor <;> simp [problems, Ending.ofReply, Outcome.diagnostic, ← registered]
    | «foreign» typeName =>
      constructor <;> simp [problems, Ending.ofReply, Outcome.diagnostic, ← registered]
    | contribution c =>
      by_cases fits : c.shape.Extends (s.registry.family.get stop.slot)
      · cases held? with
        | none => constructor <;> simp [problems, Ending.ofReply, fits, ← registered]
        | some held =>
          by_cases related : c.shape.Related held.shape
          · constructor <;> simp [problems, Ending.ofReply, fits, related, ← registered]
          · constructor <;>
              simp [problems, Ending.ofReply, Outcome.diagnostic, fits, related, ← registered]
      · constructor <;> simp [problems, Ending.ofReply, Outcome.diagnostic, fits, ← registered]

/-- The account of a step that gets a reply. -/
def account (s : Service σ) (stop : Stop) (o : Outcome) (target : String)
    (reply : Option Answer) : Account :=
  ⟨target, reply, .ofReply (s.registry.family.get stop.slot) (stop.held? o) reply⟩

/-- The hook calls that accounts record. -/
def accountedCalls (stop : Stop) (accounts : List Account) : List Invocation :=
  (accounts.filter fun a => a.reply.isSome).map fun a => invocation ⟨stop, a.target⟩

theorem problems_congr {o' : Outcome} (h : o'.name = o.name) (a : Account) :
    s.problems stop o' a = s.problems stop o a := by
  simp only [problems, Outcome.diagnostic, h]

theorem tellings_congr {o' : Outcome} (h : o'.name = o.name) (a : Account) :
    s.tellings stop o' a = s.tellings stop o a := by
  rw [tellings, tellings, problems_congr h, collisionDiagnostics_congr h]

theorem Accounts.congr {o' : Outcome} {held? : Option Contribution} {a : Account}
    (accounts : s.Accounts stop o' held? a) (h : o'.name = o.name) :
    s.Accounts stop o held? a := by
  have problems : s.problems stop o' a = s.problems stop o a := problems_congr h a
  constructor
  · exact problems ▸ accounts.unresolved_iff
  · exact problems ▸ accounts.failed_iff
  · exact problems ▸ accounts.unexpected_iff
  · exact problems ▸ accounts.length_le_one
  · exact problems ▸ accounts.quiet_iff
  · exact accounts.merged_iff

/-- An answer is settled as its account says. -/
theorem settled_eq_told (isOpen : o.consumed = false) (target : String) (answer : Answer) :
    let a := s.account stop o target (some answer)
    s.settled ⟨stop, target⟩ o answer =
      (o.after (stop.mergeCalls (Account.values [a]))).told (s.problems stop o a) := by
  intro a
  cases answer with
  | nothing => rfl
  | failure message => rfl
  | «foreign» typeName => rfl
  | contribution c =>
    by_cases fits : c.shape.Extends (s.registry.family.get stop.slot)
    · rcases Outcome.merge_or_clash isOpen stop c with
        ⟨related, merges⟩ | ⟨held, atPlace, unrelated, fails⟩
      · have ending : a.ending = .merged c := Ending.ofReply_of_related fits related
        simp only [settled, merged?, complaints, if_pos fits, merges, Account.values_singleton,
          problems, ending]
        rfl
      · have ending : a.ending = .unmergeable ⟨c.shape.name, held.shape.name⟩ := by
          simp only [a, account, atPlace, Ending.ofReply_of_unrelated fits unrelated]
        simp only [settled, merged?, complaints, if_pos fits, fails, Account.values_singleton,
          problems, ending]
        rfl
    · have ending : a.ending = .unexpected c.shape.name := Ending.ofReply_of_unfit fits
      simp only [settled, merged?, complaints, if_neg fits, Account.values_singleton, problems,
        ending]
      rfl

/-- A reply is taken in as its account says. -/
theorem takenIn_eq_noted (isOpen : o.consumed = false) (target : String)
    (reply : Option Answer) :
    let a := s.account stop o target reply
    s.takenIn ⟨stop, target⟩ o reply =
      (o.after (stop.mergeCalls (Account.values [a]))).noted (s.tellings stop o a)
        (accountedCalls stop [a]) := by
  intro a
  cases reply with
  | none => exact o.told_eq_noted _
  | some answer =>
    have asking : s.asking ⟨stop, target⟩ o =
        o.noted (s.collisionDiagnostics ⟨stop, target⟩ o) [invocation ⟨stop, target⟩] := rfl
    have askingOpen : (s.asking ⟨stop, target⟩ o).consumed = false := isOpen
    have same : s.account stop (s.asking ⟨stop, target⟩ o) target (some answer) = a := by
      rw [account, Stop.held?, asking, Outcome.at?_noted]
      rfl
    have problems : s.problems stop (s.asking ⟨stop, target⟩ o) a = s.problems stop o a := rfl
    rw [takenIn, settled_eq_told askingOpen, same, problems, asking, Stop.mergeCalls,
      Outcome.after_noted, Outcome.told_eq_noted, Outcome.noted_noted, List.append_nil]
    rfl

end Step

theorem accountedCalls_cons (stop : Stop) (a : Account) (accounts : List Account) :
    accountedCalls stop (a :: accounts) =
      accountedCalls stop [a] ++ accountedCalls stop accounts := by
  rw [← List.singleton_append, accountedCalls, List.filter_append, List.map_append]
  rfl

/-- Steps at one stop are accounted for one by one, each at the place that the steps before it have
left. -/
theorem foldlM_take_accounts (s : Service σ) (stop : Stop) (targets : List String) {o : Outcome}
    (isOpen : o.consumed = false) (state : σ) :
    ∃ (accounts : List Account) (next : σ),
      accounts.map Account.target = targets ∧
      ((targets.map (Step.mk stop)).mapM s.reply).run state =
        (accounts.map Account.reply, next) ∧
      ((targets.map (Step.mk stop)).foldlM s.take o).run state =
        ((o.after (stop.mergeCalls (Account.values accounts))).noted
          (accounts.flatMap (s.tellings stop o)) (accountedCalls stop accounts), next) ∧
      ∀ before a later, accounts = before ++ a :: later →
        s.Accounts stop o (stop.held? (o.after (stop.mergeCalls (Account.values before)))) a := by
  induction targets generalizing o state with
  | nil =>
    refine ⟨[], state, rfl, rfl, ?_, fun before a later split => ?_⟩
    · change (o, state) = (o.noted [] [], state)
      rw [Outcome.noted_nil]
    · simp at split
  | cons target targets ih =>
    obtain ⟨reply, middle, asked⟩ : ∃ reply middle,
        (s.reply ⟨stop, target⟩).run state = (reply, middle) := ⟨_, _, rfl⟩
    have taken : (s.take o ⟨stop, target⟩).run state =
        (s.takenIn ⟨stop, target⟩ o reply, middle) := by
      rw [take, StateT.run_bind, asked]
      rfl
    have registered : reply.isSome = s.registry.contains target := by
      rw [← s.reply_isSome ⟨stop, target⟩ state, asked]
    have visit := s.sameVisit_takenIn ⟨stop, target⟩ o reply
    have first : s.takenIn ⟨stop, target⟩ o reply = _ := takenIn_eq_noted isOpen target reply
    obtain ⟨accounts, next, targets', replies, run, each⟩ :=
      ih (visit.consumed.trans isOpen) middle
    refine ⟨s.account stop o target reply :: accounts, next, ?_, ?_, ?_, ?_⟩
    · rw [List.map_cons, targets']
      rfl
    · rw [List.map_cons, List.mapM_cons, StateT.run_bind, asked]
      change (StateT.run (_ >>= _) middle) = _
      rw [StateT.run_bind, replies]
      rfl
    · rw [List.map_cons, List.foldlM_cons, StateT.run_bind, taken]
      change (StateT.run (List.foldlM _ _ _) middle) = _
      rw [run, funext (tellings_congr visit.name), first, Outcome.after_noted_after,
        Outcome.noted_noted, ← Account.values_cons, ← accountedCalls_cons, List.flatMap_cons]
    · intro before a later split
      cases before with
      | nil =>
        cases split
        exact accounts_ofReply registered
      | cons b before =>
        cases split
        have held : stop.held? ((s.takenIn ⟨stop, target⟩ o reply).after
            (stop.mergeCalls (Account.values before))) = stop.held? (o.after (stop.mergeCalls
              (Account.values (s.account stop o target reply :: before)))) := by
          rw [first, Outcome.after_noted_after, ← Account.values_cons]
          exact Outcome.at?_noted ..
        exact held ▸ (each before a later rfl).congr visit.name

/-- Processing a node, with its position when it is a field or a case, on an open outcome.

It does not fail. Every distinct target of the node has an account, in the order in which the
targets are first addressed, and the hooks are asked in this order. What is told is told target by
target: the keys that are set more than once, when that is wanted, and then one problem or none. The
problem says that the target has no visitor, or that its hook failed, or that its answer does not
fit the node or cannot be merged with what the place of the node holds by then; there is none
exactly when the hook has nothing to say or its contribution is merged. Apart from what is told and
the calls that are recorded, the outcome is the one that results from merging the contributions of
the accounts one after another, and only the place that the node fills is changed by them. -/
theorem processNode_accounts (s : Service σ) (stop : Stop) (o : Outcome) (session : Session σ)
    (isOpen : o.consumed = false) (indexed : stop.lacksIndex = false) :
    ∃ (o' : Outcome) (final : Session σ) (accounts : List Account),
      (s.processNode stop o).run.run session = (.ok o', final) ∧
      accounts.map Account.target = (stop.node.annotations.map Directive.target).eraseDups ∧
      (stop.steps.mapM s.reply).run session.state = (accounts.map Account.reply, final.state) ∧
      o'.diagnostics = o.diagnostics ++ accounts.flatMap (s.tellings stop o) ∧
      o'.invocations = o.invocations ++ accountedCalls stop accounts ∧
      (∀ before a later, accounts = before ++ a :: later →
        s.Accounts stop o
          (stop.held? (o.after (stop.mergeCalls (Account.values before)))) a) ∧
      o' = { o.after (stop.mergeCalls (Account.values accounts)) with
        diagnostics := o'.diagnostics
        invocations := o'.invocations } ∧
      ∀ slot name, ¬stop.Fills slot name → o'.at? slot name = o.at? slot name := by
  obtain ⟨accounts, next, targets, replies, run, each⟩ :=
    s.foldlM_take_accounts stop (Directives.targets stop.node.annotations) isOpen session.state
  obtain ⟨log, performed⟩ := s.foldlM_perform_refines stop.steps isOpen session
  have processed : (s.processNode stop o).run.run session =
      (stop.steps.foldlM s.perform o).run.run session := by
    rw [processNode, indexed]
    rfl
  obtain ⟨diagnostics, invocations⟩ :=
    o.entries_after ((Account.values accounts).map stop.merging)
  refine ⟨(o.after (stop.mergeCalls (Account.values accounts))).noted
    (accounts.flatMap (s.tellings stop o)) (accountedCalls stop accounts),
    ⟨next, log, session.picks⟩, accounts, ?_, ?_, replies, ?_, ?_, each, rfl, ?_⟩
  · have taken : (stop.steps.foldlM s.take o).run session.state = _ := run
    rw [processed, performed, taken]
  · rw [targets, Directives.targets, distinct_eq_eraseDups]
  · exact congrArg (· ++ _) diagnostics
  · exact congrArg (· ++ _) invocations
  · intro slot name elsewhere
    rw [Outcome.at?_noted, Outcome.at?_after_mergeCalls elsewhere]

/-- A service with one visitor for each way to answer. Of the contributions, the first two fit
fields and have shapes that do not extend each other, and the last one does not fit fields. -/
def motley : Service Unit :=
  let sidedField := Shape.rustField.extend ⟨"SidedFieldContribution", ["sides"], []⟩
  let answers : List (String × Answer) :=
    [("quiet", .nothing), ("broken", .failure "no such rule"), ("numeric", .foreign "int"),
      ("noted", .contribution (.filled Contribution.notedField .keep "a")),
      ("sided", .contribution (.filled sidedField .skip "b")),
      ("misplaced", .contribution (.filled .rustFunction .skip "c"))]
  let visitor (target : String) (answer : Answer) : Visitor Unit :=
    { className := "FixedVisitor", target := target, family := .rust, reentrant := true,
      hook := fun _ => pure answer }
  let visitors := answers.map fun (target, answer) => (target, visitor target answer)
  .start ⟨.rust, .refuse, .ofList visitors, false⟩ .defaults none

/-- A field at the first position, with an annotation for every visitor, and with two for `lint`,
which has no visitor and whose level is set twice. -/
def motleyField : Stop :=
  let plain (target : String) (h : target ≠ "") : Directive := ⟨target, .text "", h⟩
  let lint (level : String) : Directive := lintDirective (.options (.ofList [("level", level)]))
  ⟨.field ⟨⟨"x", none, [plain "noted" (by decide), lint "deny", plain "broken" (by decide),
      plain "sided" (by decide), lint "warn", plain "quiet" (by decide),
      plain "numeric" (by decide), plain "misplaced" (by decide)]⟩, "u8"⟩, some 0⟩

/-- The first contribution is merged. The second one meets it at the field, so that its request to
skip is lost. -/
theorem processNode_accounts_motley :
    let o := Outcome.start .rust .record "point"
    (o.consumed = false ∧ motleyField.lacksIndex = false) ∧
      ∃ o' final, ∃ accounts : List Account,
        (motley.processNode motleyField o).run.run ⟨(), [], []⟩ = (.ok o', final) ∧
        accounts.map Account.target =
          ["noted", "lint", "broken", "sided", "quiet", "numeric", "misplaced"] ∧
        accounts.map (fun a => a.reply.isSome) = [true, false, true, true, true, true, true] ∧
        o'.diagnostics.map (fun d => (d.target, d.kind)) =
          [("lint", .keyCollision), ("lint", .unresolvedTarget), ("broken", .hookFailed),
            ("sided", .unexpectedContribution), ("numeric", .unexpectedContribution),
            ("misplaced", .unexpectedContribution)] ∧
        o'.at? .field "x" = some (.filled Contribution.notedField .keep "a") ∧ o'.action = .keep ∧
        o'.at? .field "y" = none := by
  intro o
  obtain ⟨o', final, accounts, run, targets, replies, -, -, -, -, frame⟩ :=
    motley.processNode_accounts motleyField o ⟨(), [], []⟩ rfl rfl
  have answered : accounts.map (fun a => a.reply.isSome) =
      [true, false, true, true, true, true, true] := by
    have asked := congrArg (fun result => result.1.map Option.isSome) replies
    rw [List.map_map] at asked
    exact asked.symm.trans (by decide)
  have shown : ((motley.processNode motleyField o).run.run ⟨(), [], []⟩).1.map
      (fun o' => (o'.diagnostics.map fun d => (d.target, d.kind), o'.at? .field "x", o'.action)) =
        .ok ([("lint", .keyCollision), ("lint", .unresolvedTarget), ("broken", .hookFailed),
          ("sided", .unexpectedContribution), ("numeric", .unexpectedContribution),
          ("misplaced", .unexpectedContribution)],
          some (.filled Contribution.notedField .keep "a"), .keep) := by
    rfl
  rw [run] at shown
  obtain ⟨told, held, action⟩ := Prod.mk.inj (Except.ok.inj shown) |>.imp_right Prod.mk.inj
  exact ⟨⟨rfl, rfl⟩, o', final, accounts, run, targets.trans (by decide), answered, told, held,
    action, frame .field "y" fun fills => absurd (fills.2 rfl) (by decide)⟩

end Service

end SchemaWeaver
