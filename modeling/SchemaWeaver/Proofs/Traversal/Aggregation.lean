import SchemaWeaver.Proofs.Contribution.Merge
import SchemaWeaver.Proofs.OrderedMap
import SchemaWeaver.Proofs.Traversal.Dispatch

/-!
# What an outcome holds

The calls that are due at a node are sent to their visitors without the engine, one after another;
what is offered are the contributions among the answers whose shapes fit their slots. An outcome
collects offers: each of its places holds the offers to this place, merged from left to right, and
the names of members stand in the order of the first offer. A step makes an outcome collect one
offer more or none, so that a visit collects everything that is offered to its node.

For a type definition the offers are told apart: those to the definition itself, and those to its
fields or cases under their names.
-/

namespace SchemaWeaver

/-- A contribution that fits its slot, beside the call that it answers. -/
structure Offer where
  dispatch : Dispatch
  value : Contribution
  deriving DecidableEq, Repr

namespace Offer

/-- The slot that an offer goes to. -/
def slot (offer : Offer) : Slot := Slot.ofKind offer.dispatch.call.node.kind

/-- The name of the node that an offer is for. -/
def name (offer : Offer) : String := offer.dispatch.call.node.name

/-- Whether an offer goes to a place: a slot, and for members a name. -/
def GoesTo (slot : Slot) (name : String) (offer : Offer) : Prop :=
  offer.slot = slot ∧ (slot.isMember = true → offer.name = name)

instance (slot : Slot) (name : String) : DecidablePred (GoesTo slot name) := fun _ =>
  inferInstanceAs (Decidable (_ ∧ _))

/-- The contributions that are offered to a place. -/
def valuesFor (slot : Slot) (name : String) (offers : List Offer) : List Contribution :=
  (offers.filter (GoesTo slot name)).map value

/-- The names under which there are offers to a slot, in the order of the offers. -/
def namesIn (slot : Slot) (offers : List Offer) : List String :=
  (offers.filter (·.slot = slot)).map name

theorem valuesFor_concat (slot : Slot) (name : String) (offers : List Offer) (offer : Offer) :
    valuesFor slot name (offers ++ [offer]) =
      if offer.GoesTo slot name then valuesFor slot name offers ++ [offer.value]
      else valuesFor slot name offers := by
  simp only [valuesFor, List.filter_append, List.map_append]
  split <;> simp [*]

theorem namesIn_concat (slot : Slot) (offers : List Offer) (offer : Offer) :
    namesIn slot (offers ++ [offer]) =
      if offer.slot = slot then namesIn slot offers ++ [offer.name] else namesIn slot offers := by
  simp only [namesIn, List.filter_append, List.map_append]
  split <;> simp [*]

end Offer

namespace Registry

variable {σ : Type}

/-- Sends a call to the visitor of its target; without one the answer is nothing. -/
def ask (r : Registry σ) (d : Dispatch) : StateM σ Answer :=
  match r.find? d.target with
  | none => pure .nothing
  | some v => v.hook d.call

/-- The offer in the answer to a call: a contribution whose shape fits the slot of the node. -/
def offer? (r : Registry σ) (d : Dispatch) : Answer → Option Offer
  | .contribution c =>
    if c.shape.Extends (r.family.get (Slot.ofKind d.call.node.kind)) then some ⟨d, c⟩ else none
  | _ => none

/-- Sends calls to their visitors, one after another, and keeps what is offered. -/
def offers (r : Registry σ) (calls : List Dispatch) : StateM σ (List Offer) := do
  let answers ← calls.mapM r.ask
  return (calls.zip answers).filterMap fun (d, answer) => r.offer? d answer

theorem offer?_eq_some {r : Registry σ} {d : Dispatch} {answer : Answer} {offer : Offer}
    (h : r.offer? d answer = some offer) :
    ∃ c, answer = .contribution c ∧ c.shape.Extends (r.family.get (Slot.ofKind d.call.node.kind)) ∧
      offer = ⟨d, c⟩ := by
  cases answer with
  | contribution c =>
    simp only [offer?] at h
    split at h
    · rename_i fits
      cases h
      exact ⟨c, rfl, fits, rfl⟩
    · cases h
  | nothing => cases h
  | «foreign» typeName => cases h
  | failure message => cases h

/-- Calls are answered one after another. -/
theorem offers_cons (r : Registry σ) (d : Dispatch) (calls : List Dispatch) (state : σ) :
    (r.offers (d :: calls)).run state =
      ((r.offer? d ((r.ask d).run state).1).toList ++
          ((r.offers calls).run ((r.ask d).run state).2).1,
        ((r.offers calls).run ((r.ask d).run state).2).2) := by
  have first (answer : Answer) (answers : List Answer) :
      ((d :: calls).zip (answer :: answers)).filterMap (fun (d, answer) => r.offer? d answer) =
        (r.offer? d answer).toList ++
          (calls.zip answers).filterMap fun (d, answer) => r.offer? d answer := by
    rw [List.zip_cons_cons, List.filterMap_cons]
    dsimp only
    cases r.offer? d answer <;> rfl
  simp only [offers, List.mapM_cons, bind_assoc, pure_bind]
  exact Prod.ext (first _ _) rfl

theorem offers_append (r : Registry σ) (calls more : List Dispatch) (state : σ) :
    (r.offers (calls ++ more)).run state =
      (((r.offers calls).run state).1 ++ ((r.offers more).run ((r.offers calls).run state).2).1,
        ((r.offers more).run ((r.offers calls).run state).2).2) := by
  induction calls generalizing state with
  | nil => rfl
  | cons d calls ih =>
    rw [List.cons_append, offers_cons, ih, offers_cons, List.append_assoc]

/-- What is offered answers one of the calls, and fits its slot. -/
theorem mem_offers {r : Registry σ} {calls : List Dispatch} {state : σ} {offer : Offer}
    (h : offer ∈ ((r.offers calls).run state).1) :
    offer.dispatch ∈ calls ∧ offer.value.shape.Extends (r.family.get offer.slot) := by
  induction calls generalizing state with
  | nil => cases h
  | cons d calls ih =>
    rw [offers_cons] at h
    rcases List.mem_append.mp h with first | later
    · obtain ⟨c, -, fits, rfl⟩ := offer?_eq_some (Option.mem_toList.mp first)
      exact ⟨List.mem_cons_self .., fits⟩
    · exact ⟨List.mem_cons_of_mem _ (ih later).1, (ih later).2⟩

end Registry

namespace Outcome

/-- What an outcome holds after an offer: the offer is merged into its place when it can be, and
nothing else changes. -/
structure Absorbs (o : Outcome) (offer : Offer) (o' : Outcome) : Prop where
  at?_eq : ∀ slot name, o'.at? slot name =
    if offer.GoesTo slot name then Contribution.absorb (o.at? slot name) offer.value
    else o.at? slot name
  keys_eq : ∀ slot, slot.isMember = true → (o'.members slot).keys =
    if offer.slot = slot ∧ offer.name ∉ (o.members slot).keys then
      (o.members slot).keys ++ [offer.name]
    else (o.members slot).keys

/-- An outcome holds what was offered to it: at every place the offers to this place, merged, and
for members the names in the order of the first offer. -/
structure Collects (o : Outcome) (offers : List Offer) : Prop where
  at?_eq : ∀ slot name, o.at? slot name = Contribution.mergeAll (Offer.valuesFor slot name offers)
  keys_eq : ∀ slot, slot.isMember = true →
    (o.members slot).keys = distinct (Offer.namesIn slot offers)

theorem collects_start (family : Backend) (kind : NodeKind) (name : String) :
    (start family kind name).Collects [] where
  at?_eq slot _ := by cases slot <;> rfl
  keys_eq slot _ := by cases slot <;> rfl

theorem Collects.told {o : Outcome} {offers : List Offer} (h : o.Collects offers)
    (diagnostics : List Diagnostic) : (o.told diagnostics).Collects offers where
  at?_eq slot name := (o.at?_told diagnostics slot name).trans (h.at?_eq slot name)
  keys_eq slot isMember := by rw [members_told, h.keys_eq slot isMember]

theorem Collects.called {o : Outcome} {offers : List Offer} (h : o.Collects offers)
    (invocation : Invocation) : (o.called invocation).Collects offers where
  at?_eq slot name := (o.at?_called invocation slot name).trans (h.at?_eq slot name)
  keys_eq slot isMember := by rw [members_called, h.keys_eq slot isMember]

theorem Collects.absorbs {o o' : Outcome} {offers : List Offer} {offer : Offer}
    (h : o.Collects offers) (absorbs : o.Absorbs offer o') : o'.Collects (offers ++ [offer]) where
  at?_eq slot name := by
    rw [absorbs.at?_eq, h.at?_eq, Offer.valuesFor_concat]
    split
    · rw [Contribution.mergeAll_concat]
    · rfl
  keys_eq slot member := by
    rw [absorbs.keys_eq slot member, h.keys_eq slot member, Offer.namesIn_concat]
    by_cases same : offer.slot = slot
    · simp only [same, true_and, if_true, distinct_concat, mem_distinct, ite_not]
    · simp only [same, false_and, if_false]

theorem absorb_of_combine_eq_ok {held? : Option Contribution} {c merged : Contribution}
    (h : combine held? c = .ok merged) : Contribution.absorb held? c = some merged := by
  cases held? with
  | none =>
    cases h
    rfl
  | some held => rw [Contribution.absorb, merge_of_combine h]

theorem absorb_of_combine_eq_error {held? : Option Contribution} {c : Contribution}
    {reason : Refusal} (h : combine held? c = .error reason) :
    held?.isSome = true ∧ Contribution.absorb held? c = held? := by
  cases held? with
  | none => cases h
  | some held =>
    refine ⟨rfl, ?_⟩
    cases merges : held.merge c with
    | ok both =>
      rw [combine, merges] at h
      cases h
    | error reason => rw [Contribution.absorb, merges]

section Places

variable {o : Outcome} {offer : Offer} {slot : Slot} {name member : String}

/-- Where an offer goes can be told by the name that a merge is given for it. -/
theorem goesTo_iff (named : offer.slot.isMember = true → member = offer.name) :
    offer.GoesTo slot name ↔ offer.slot = slot ∧ (slot.isMember = true → member = name) := by
  refine and_congr_right fun same => ?_
  subst same
  exact imp_congr_right fun isMember => by rw [named isMember]

theorem at?_of_goesTo (named : offer.slot.isMember = true → member = offer.name)
    (h : offer.GoesTo slot name) : o.at? slot name = o.at? offer.slot member := by
  obtain ⟨rfl, same⟩ := (goesTo_iff named).mp h
  exact o.at?_congr fun isMember => (same isMember).symm

/-- Writing what an offer is merged to absorbs it. -/
theorem absorbs_put (named : offer.slot.isMember = true → member = offer.name)
    {merged : Contribution}
    (combined : combine (o.at? offer.slot member) offer.value = .ok merged) :
    o.Absorbs offer (o.put offer.slot member merged) where
  at?_eq slot name := by
    rw [at?_put]
    by_cases h : offer.GoesTo slot name
    · rw [if_pos ((goesTo_iff named).mp h), if_pos h, at?_of_goesTo named h,
        absorb_of_combine_eq_ok combined]
    · rw [if_neg ((goesTo_iff named).not.mp h), if_neg h]
  keys_eq slot isMember := by
    rw [keys_members_put _ _ _ _ _ isMember]
    by_cases same : offer.slot = slot
    · rw [named (same ▸ isMember)]
    · simp only [same, false_and, if_false]

/-- An outcome that cannot merge an offer absorbs it as it is. -/
theorem absorbs_self (named : offer.slot.isMember = true → member = offer.name) {reason : Refusal}
    (refused : combine (o.at? offer.slot member) offer.value = .error reason) :
    o.Absorbs offer o where
  at?_eq slot name := by
    split
    · rename_i h
      rw [at?_of_goesTo named h, (absorb_of_combine_eq_error refused).2]
    · rfl
  keys_eq slot isMember := by
    have present := (absorb_of_combine_eq_error refused).1
    rw [if_neg]
    rintro ⟨rfl, absent⟩
    rw [named isMember, o.at?_eq_find? isMember, OrderedMap.find?_isSome_iff] at present
    exact absent present

end Places

/-- An open outcome absorbs an offer, whether it can be merged or not. -/
theorem absorbs_merge {o : Outcome} (isOpen : o.consumed = false) (offer : Offer)
    {member? : Option String} (named : offer.slot.isMember = true → member? = some offer.name) :
    o.Absorbs offer ((o.merge offer.slot offer.value member?).toOption.getD o) := by
  have atMember : offer.slot.isMember = true → member?.getD "" = offer.name := fun h => by
    rw [named h, Option.getD_some]
  rw [merge_of_open isOpen _ fun h => by rw [named h]; rfl]
  cases combined : combine (o.at? offer.slot (member?.getD "")) offer.value with
  | ok merged =>
    have absorbs := absorbs_put atMember combined
    exact ⟨absorbs.at?_eq, absorbs.keys_eq⟩
  | error reason => exact absorbs_self atMember combined

end Outcome

namespace Service

variable {σ : Type} {s : Service σ}

/-- A reply is what is answered to the call of the step, when the target has a visitor. -/
theorem reply_eq_ask (step : Step) :
    s.reply step = if s.registry.contains step.target then some <$> s.registry.ask (dispatch step)
      else pure none := by
  rw [Registry.contains_eq_isSome]
  simp only [reply, Registry.ask, dispatch]
  cases s.registry.find? step.target <;> rfl

theorem merged?_eq_bind (step : Step) (o : Outcome) (answer : Answer) :
    s.merged? step o answer = (s.registry.offer? (dispatch step) answer).bind fun offer =>
      (o.merge offer.slot offer.value step.stop.member?).toOption := by
  cases answer with
  | contribution c =>
    by_cases fits : c.shape.Extends (s.registry.family.get step.stop.slot)
    · have offered : s.registry.offer? (dispatch step) (.contribution c) =
          some ⟨dispatch step, c⟩ := if_pos fits
      rw [offered]
      exact if_pos fits
    · have offered : s.registry.offer? (dispatch step) (.contribution c) = none := if_neg fits
      rw [offered]
      exact if_neg fits
  | nothing => rfl
  | «foreign» typeName => rfl
  | failure message => rfl

/-- An answer makes an outcome collect the offer in it, if there is one. -/
theorem collects_settled {o : Outcome} (isOpen : o.consumed = false) {offers : List Offer}
    (collects : o.Collects offers) (step : Step) (answer : Answer) :
    (s.settled step o answer).Collects
      (offers ++ (s.registry.offer? (dispatch step) answer).toList) := by
  refine Outcome.Collects.told ?_ _
  rw [merged?_eq_bind]
  cases offered : s.registry.offer? (dispatch step) answer with
  | none =>
    rw [Option.toList_none, List.append_nil]
    exact collects
  | some offer =>
    obtain ⟨c, -, -, rfl⟩ := Registry.offer?_eq_some offered
    exact collects.absorbs (o.absorbs_merge isOpen ⟨dispatch step, c⟩ fun h => if_pos h)

/-- A step makes an outcome collect what is offered to its call. -/
theorem take_collects {o : Outcome} (isOpen : o.consumed = false) {offers : List Offer}
    (collects : o.Collects offers) (step : Step) (state : σ) :
    ∃ o', (s.take o step).run state =
        (o', ((s.registry.offers (s.dispatches [step])).run state).2) ∧
      o'.consumed = false ∧
      o'.Collects (offers ++ ((s.registry.offers (s.dispatches [step])).run state).1) := by
  have stays (reply : Option Answer) : (s.takenIn step o reply).consumed = false :=
    (s.sameVisit_takenIn step o reply).consumed.trans isOpen
  by_cases known : s.registry.contains step.target = true
  · have sent : s.dispatches [step] = [dispatch step] := by simp [dispatches, known]
    have replies : s.reply step = some <$> s.registry.ask (dispatch step) :=
      (reply_eq_ask step).trans (if_pos known)
    rw [sent, Registry.offers_cons]
    refine ⟨s.takenIn step o (some ((s.registry.ask (dispatch step)).run state).1), ?_,
      stays _, ?_⟩
    · rw [take, replies]
      rfl
    · have asking : (s.asking step o).Collects offers := (collects.told _).called _
      have askingOpen : (s.asking step o).consumed = false := isOpen
      change (s.settled step (s.asking step o) _).Collects (offers ++ (_ ++ []))
      rw [List.append_nil]
      exact collects_settled askingOpen asking step _
  · have silent : s.dispatches [step] = [] := by simp [dispatches, known]
    have replies : s.reply step = pure none := (reply_eq_ask step).trans (if_neg known)
    refine ⟨s.takenIn step o none, ?_, stays none, ?_⟩
    · rw [take, replies, silent]
      rfl
    · rw [silent]
      change (o.told _).Collects (offers ++ [])
      rw [List.append_nil]
      exact collects.told _

/-- A visit collects everything that is offered to its calls. -/
theorem foldlM_take_collects (steps : List Step) {o : Outcome} (isOpen : o.consumed = false)
    {offers : List Offer} (collects : o.Collects offers) (state : σ) :
    ∃ o', (steps.foldlM s.take o).run state =
        (o', ((s.registry.offers (s.dispatches steps)).run state).2) ∧
      o'.Collects (offers ++ ((s.registry.offers (s.dispatches steps)).run state).1) := by
  induction steps generalizing o offers state with
  | nil =>
    refine ⟨o, rfl, ?_⟩
    change o.Collects (offers ++ [])
    rwa [List.append_nil]
  | cons step steps ih =>
    -- The calls of the later steps find the state that the call of the first one leaves.
    obtain ⟨next, taken, nextOpen, first⟩ := take_collects isOpen collects step state
    obtain ⟨o', run, all⟩ := ih nextOpen first _
    rw [s.dispatches_cons step steps, s.registry.offers_append (s.dispatches [step])]
    refine ⟨o', ?_, ?_⟩
    · rw [List.foldlM_cons, StateT.run_bind, taken]
      exact run
    · rw [← List.append_assoc]
      exact all

/-- The outcome of a visit to a node holds what was offered to the calls that are due there. -/
theorem visit_collects (s : Service σ) (node : Node) (state : σ) :
    ((s.visit node).run state).2 = ((s.registry.offers (s.registry.due node)).run state).2 ∧
      ((s.visit node).run state).1.Collects
        ((s.registry.offers (s.registry.due node)).run state).1 := by
  obtain ⟨o, run, collects⟩ :=
    foldlM_take_collects (s := s) node.steps (o := s.begin node) rfl
      (Outcome.collects_start ..) state
  rw [dispatches_steps] at run collects
  rw [visit, run]
  exact ⟨rfl, collects⟩

end Service

end SchemaWeaver
