import SchemaWeaver.Proofs.Contribution.Algebra
import SchemaWeaver.Proofs.Outcome.Emptiness

/-!
# Runs of merges, place by place

A merge looks at one place of an outcome and writes this place alone. So a run of merges falls into
one run for each place: how the merges to a place end and what it holds afterwards is told by these
merges without the others.

What a place holds is told in closed form by the contributions that were merged into it. Its shape
is the base of their shapes, which only becomes more basic in the course of a run, and each of its
lists has their fragments one after another. Once the shape is the base of everything that can still
come, no merge fails any more.
-/

namespace SchemaWeaver.Outcome

instance : DecidablePred Merging.Named := fun _ => inferInstanceAs (Decidable (_ → _))

/-- The call that merges a contribution. -/
def Merging.call (m : Merging) : Call := .merge m.slot m.value m.member?

/-- How merges end, one after another. -/
def replies (o : Outcome) : List Merging → List (Except Refusal Unit)
  | [] => []
  | m :: ms => (o.call m.call).1 :: (o.call m.call).2.replies ms

/-- How those of the merges end that go to a place. -/
def repliesAt (o : Outcome) (slot : Slot) (name : String) (ms : List Merging) :
    List (Except Refusal Unit) :=
  ((ms.zip (o.replies ms)).filter fun (m, _) => m.GoesTo slot name).map Prod.snd

/-- What a place holds is told by contributions: their base is its shape, its lists have their
fragments one after another, and it asks to skip when one of them does. -/
structure Gathers (held? : Option Contribution) (values : List Contribution) : Prop where
  none_iff : held? = none ↔ values = []
  isBase : ∀ held, held? = some held → held.shape.IsBase (values.map Contribution.shape)
  fragments : ∀ held, held? = some held → ∀ list ∈ held.shape.lists,
    held.fragments list = values.flatMap fun c => c.fragments list
  action : ∀ held, held? = some held → (held.action = .skip ↔ ∃ c ∈ values, c.action = .skip)

variable {o o' : Outcome} {m : Merging} {ms : List Merging} {slot : Slot} {name : String}

section Call

/-- On an open outcome a merge under a name ends as its place decides. -/
theorem call_of_named (isOpen : o.consumed = false) (named : m.Named) : o.call m.call =
    match combine (o.at? m.slot m.name) m.value with
    | .ok merged => (.ok (), o.taking m merged)
    | .error reason => (.error reason, o) := by
  have merging : m.call.merging? o.family = some m := rfl
  rw [call_eq, operate_of_named merging isOpen named]
  cases combine (o.at? m.slot m.name) m.value <;> rfl

/-- Merges do not hand an outcome on. -/
theorem isOpen_call (isOpen : o.consumed = false) (m : Merging) :
    (o.call m.call).2.consumed = false := by
  rcases o.call_cases m.call with ⟨_, -, eq⟩ | ⟨m', merged, -, -, eq⟩ | ⟨merging, -, -⟩
  · rw [eq]
    exact isOpen
  · rw [eq]
    exact (o.put_sameVisit m'.slot m'.name merged).consumed.trans isOpen
  · cases merging

theorem isOpen_after (isOpen : o.consumed = false) (ms : List Merging) :
    (o.after (ms.map Merging.call)).consumed = false := by
  induction ms generalizing o with
  | nil => exact isOpen
  | cons m ms ih => exact ih (isOpen_call isOpen m)

/-- A merge into another place leaves a place as it is. -/
theorem at?_call_of_elsewhere (elsewhere : ¬m.GoesTo slot name) :
    (o.call m.call).2.at? slot name = o.at? slot name := by
  rcases o.call_cases m.call with ⟨_, -, eq⟩ | ⟨m', merged, merging, -, eq⟩ | ⟨merging, -, -⟩
  · rw [eq]
  · cases merging
    rw [eq, at?_taking, if_neg elsewhere]
  · cases merging

/-- Two outcomes that hold the same at a place answer alike to a merge into it, and hold the same
there afterwards. -/
theorem call_congr (isOpen : o.consumed = false) (isOpen' : o'.consumed = false)
    (named : m.Named) (place : m.GoesTo slot name) (same : o'.at? slot name = o.at? slot name) :
    (o'.call m.call).1 = (o.call m.call).1 ∧
      (o'.call m.call).2.at? slot name = (o.call m.call).2.at? slot name := by
  have held : o'.at? m.slot m.name = o.at? m.slot m.name := by
    rw [← at?_of_goesTo_place place, ← at?_of_goesTo_place place, same]
  rw [call_of_named isOpen named, call_of_named isOpen' named, held]
  cases combine (o.at? m.slot m.name) m.value with
  | ok merged => simp only [at?_taking, if_pos place, true_and]
  | error reason => exact ⟨rfl, same⟩

/-- A merge fails exactly when its place holds something of an unrelated shape. -/
theorem call_eq_error_iff_unrelated (isOpen : o.consumed = false) (named : m.Named)
    (place : m.GoesTo slot name) {reason : Refusal} : (o.call m.call).1 = .error reason ↔
      ∃ held, o.at? slot name = some held ∧ ¬m.value.shape.Related held.shape ∧
        reason = .mismatch ⟨m.value.shape.name, held.shape.name⟩ := by
  have failed : (o.call m.call).1 = .error reason ↔
      combine (o.at? m.slot m.name) m.value = .error reason := by
    rw [call_of_named isOpen named]
    cases combine (o.at? m.slot m.name) m.value <;> simp
  rw [failed, combine_eq_error_iff, at?_of_goesTo_place place]
  simp only [Shape.Related, not_or]

theorem call_eq_ok_iff_related (isOpen : o.consumed = false) (named : m.Named)
    (place : m.GoesTo slot name) : (o.call m.call).1 = .ok () ↔
      ∀ held, o.at? slot name = some held → m.value.shape.Related held.shape := by
  constructor
  · intro succeeded held atPlace
    by_contra unrelated
    have failed := (call_eq_error_iff_unrelated isOpen named place).mpr
      ⟨held, atPlace, unrelated, rfl⟩
    rw [succeeded] at failed
    cases failed
  · intro related
    cases reply : (o.call m.call).1 with
    | ok _ => rfl
    | error reason =>
      obtain ⟨held, atPlace, unrelated, -⟩ :=
        (call_eq_error_iff_unrelated isOpen named place).mp reply
      exact absurd (related held atPlace) unrelated

end Call

section Projection

theorem repliesAt_cons (o : Outcome) (slot : Slot) (name : String) (m : Merging)
    (ms : List Merging) : o.repliesAt slot name (m :: ms) =
      (if m.GoesTo slot name then [(o.call m.call).1] else []) ++
        (o.call m.call).2.repliesAt slot name ms := by
  rw [repliesAt, replies, List.zip_cons_cons, List.filter_cons]
  by_cases place : m.GoesTo slot name
  · simp [place, repliesAt]
  · simp [place, repliesAt]

/-- The merges to a place end, and leave the place, as they do without the others. -/
theorem run_at_place (isOpen : o.consumed = false) (isOpen' : o'.consumed = false)
    (same : o'.at? slot name = o.at? slot name) (named : ∀ m ∈ ms, m.Named) :
    (o.after (ms.map Merging.call)).at? slot name =
        (o'.after ((ms.filter (Merging.GoesTo slot name)).map Merging.call)).at? slot name ∧
      o.repliesAt slot name ms = o'.replies (ms.filter (Merging.GoesTo slot name)) := by
  induction ms generalizing o o' with
  | nil => exact ⟨same.symm, rfl⟩
  | cons m ms ih =>
    have others : ∀ m ∈ ms, m.Named := fun m' member => named m' (List.mem_cons_of_mem _ member)
    rw [List.map_cons, after_cons, repliesAt_cons]
    by_cases place : m.GoesTo slot name
    · obtain ⟨reply, content⟩ :=
        call_congr isOpen isOpen' (named m (List.mem_cons_self ..)) place same
      obtain ⟨held, replies⟩ := ih (isOpen_call isOpen m) (isOpen_call isOpen' m) content others
      rw [List.filter_cons, if_pos (decide_eq_true place), List.map_cons, after_cons,
        Outcome.replies, if_pos place, reply, replies]
      exact ⟨held, rfl⟩
    · have content : o'.at? slot name = (o.call m.call).2.at? slot name :=
        same.trans (at?_call_of_elsewhere place).symm
      rw [List.filter_cons, if_neg (mt of_decide_eq_true place), if_neg place, List.nil_append]
      exact ih (isOpen_call isOpen m) isOpen' content others

end Projection

/-- A merge counts at a place when it goes there and does not fail. -/
theorem mergedAt_call_cons (o : Outcome) (slot : Slot) (name : String) (m : Merging)
    (calls : List Call) : o.mergedAt slot name (m.call :: calls) =
      (if m.GoesTo slot name ∧ (o.call m.call).1 = .ok () then [m.value] else []) ++
        (o.call m.call).2.mergedAt slot name calls := by
  rcases o.call_cases m.call with ⟨_, -, eq⟩ | ⟨m', merged, merging, -, eq⟩ | ⟨merging, -, -⟩
  · simp [mergedAt, mergings, accepted, eq]
  · cases merging
    rw [mergedAt_of_mergings (mergings_of_taking rfl eq calls), eq]
    simp
  · cases merging

/-- The contributions that are merged into a place are those whose merges go there and do not
fail. -/
theorem mergedAt_eq_filter_replies (o : Outcome) (slot : Slot) (name : String)
    (ms : List Merging) : o.mergedAt slot name (ms.map Merging.call) =
      ((ms.zip (o.replies ms)).filter fun (m, reply) => m.GoesTo slot name ∧ reply = .ok ()).map
        fun (m, _) => m.value := by
  induction ms generalizing o with
  | nil => rfl
  | cons m ms ih =>
    rw [List.map_cons, mergedAt_call_cons, ih, replies, List.zip_cons_cons, List.filter_cons]
    by_cases counts : m.GoesTo slot name ∧ (o.call m.call).1 = .ok ()
    · simp [counts]
    · rw [if_neg counts, if_neg (mt of_decide_eq_true counts), List.nil_append]

section Content

variable {held? : Option Contribution} {held c merged : Contribution} {values : List Contribution}

theorem gathers_none : Gathers none [] where
  none_iff := by simp
  isBase := nofun
  fragments := nofun
  action := nofun

theorem gathers_singleton (c : Contribution) : Gathers (some c) [c] where
  none_iff := by simp
  isBase held same := by
    cases same
    exact Shape.isBase_singleton c.shape
  fragments held same list _ := by
    cases same
    simp
  action held same := by
    cases same
    simp

/-- A contribution that is merged into a place is gathered there with the others. -/
theorem Gathers.combine (h : Gathers held? values) (combined : combine held? c = .ok merged) :
    Gathers (some merged) (values ++ [c]) := by
  cases held? with
  | none =>
    cases combined
    rw [h.none_iff.mp rfl]
    exact gathers_singleton c
  | some held =>
    have merges := merge_of_combine combined
    have ⟨subset, _⟩ := Contribution.lists_subset_of_merge merges
    refine ⟨by simp, fun _ same => ?_, fun _ same list listed => ?_, fun _ same => ?_⟩
    · cases same
      rw [List.map_append]
      exact (h.isBase held rfl).append (Shape.isBase_singleton _)
        (Contribution.isBase_of_merge merges)
    · cases same
      rw [Contribution.fragments_of_merge merges listed, h.fragments held rfl list (subset listed),
        List.flatMap_append, List.flatMap_singleton]
    · cases same
      rw [action_of_combine combined]
      simp [h.action held rfl, or_and_right, exists_or]

/-- A place gathers what calls merge into it. -/
theorem Gathers.after (h : Gathers (o.at? slot name) values) (calls : List Call) :
    Gathers ((o.after calls).at? slot name) (values ++ o.mergedAt slot name calls) := by
  induction calls generalizing o values with
  | nil =>
    change Gathers (o.at? slot name) (values ++ [])
    rwa [List.append_nil]
  | cons c calls ih =>
    rcases o.run_cases c calls with
      ⟨o', same, after, mergings⟩ | ⟨m, merged, merges, after, mergings⟩
    · rw [after, mergedAt, mergings]
      exact ih (by rwa [same.at?_eq])
    · have content := o.at?_taking m merged slot name
      rw [after, mergedAt_of_mergings mergings, ← List.append_assoc]
      by_cases place : m.GoesTo slot name
      · rw [if_pos place] at content ⊢
        have combined := merges.combined
        rw [← at?_of_goesTo_place place] at combined
        exact ih (content ▸ h.combine combined)
      · rw [if_neg place] at content ⊢
        rw [List.append_nil]
        exact ih (content ▸ h)

/-- What a place holds is gathered with what calls merge into it, and so is only ever replaced by
something more basic. -/
theorem exists_gathered_after (atPlace : o.at? slot name = some held) (calls : List Call) :
    ∃ held', (o.after calls).at? slot name = some held' ∧ held.shape.Extends held'.shape ∧
      Gathers (some held') (held :: o.mergedAt slot name calls) := by
  have before : Gathers (o.at? slot name) [held] := atPlace ▸ gathers_singleton held
  have gathered := before.after calls
  cases atPlace' : (o.after calls).at? slot name with
  | none =>
    rw [atPlace'] at gathered
    cases gathered.none_iff.mp rfl
  | some held' =>
    rw [atPlace'] at gathered
    exact ⟨held', rfl, (gathered.isBase held' rfl).extended held.shape (by simp), gathered⟩

/-- Contributions that extend what a place holds leave its shape as it is. -/
theorem exists_base_after (atPlace : o.at? slot name = some held) {calls : List Call}
    (extend : ∀ c ∈ o.mergedAt slot name calls, c.shape.Extends held.shape) :
    ∃ held', (o.after calls).at? slot name = some held' ∧ held'.shape = held.shape ∧
      ∀ list ∈ held.shape.lists, held'.fragments list =
        held.fragments list ++ (o.mergedAt slot name calls).flatMap fun c => c.fragments list := by
  obtain ⟨held', atPlace', -, gathered⟩ := exists_gathered_after atPlace calls
  have base : held.shape.IsBase ((held :: o.mergedAt slot name calls).map Contribution.shape) := by
    refine ⟨by simp, ?_⟩
    simpa [Shape.Extends.refl] using extend
  have same : held'.shape = held.shape := (gathered.isBase held' rfl).unique base
  refine ⟨held', atPlace', same, fun list listed => ?_⟩
  rw [gathered.fragments held' rfl list (same ▸ listed), List.flatMap_cons]

/-- Once a place holds something that all later contributions to it extend, none of them fails. -/
theorem replies_of_base (isOpen : o.consumed = false) (named : ∀ m ∈ ms, m.Named)
    (atPlace : o.at? slot name = some held)
    (arrive : ∀ m ∈ ms, m.GoesTo slot name → m.value.shape.Extends held.shape) :
    (∀ reply ∈ o.repliesAt slot name ms, reply = .ok ()) ∧
      o.mergedAt slot name (ms.map Merging.call) =
        (ms.filter (Merging.GoesTo slot name)).map Merging.value := by
  induction ms generalizing o held with
  | nil => exact ⟨nofun, rfl⟩
  | cons m ms ih =>
    have named' : ∀ m ∈ ms, m.Named := fun m' member => named m' (List.mem_cons_of_mem _ member)
    have arrive' : ∀ m ∈ ms, m.GoesTo slot name → m.value.shape.Extends held.shape :=
      fun m' member => arrive m' (List.mem_cons_of_mem _ member)
    have open' := isOpen_call isOpen m
    by_cases place : m.GoesTo slot name
    · have extension := arrive m (List.mem_cons_self ..) place
      have reply : (o.call m.call).1 = .ok () := by
        refine (call_eq_ok_iff_related isOpen (named m (List.mem_cons_self ..)) place).mpr ?_
        intro other same
        cases atPlace.symm.trans same
        exact .inl extension
      have merged : o.mergedAt slot name [m.call] = [m.value] := by
        rw [mergedAt_call_cons, if_pos ⟨place, reply⟩]
        rfl
      -- The merge leaves the shape at the place, so that the others find what they extend.
      have extend : ∀ c ∈ o.mergedAt slot name [m.call], c.shape.Extends held.shape := by
        simpa [merged] using extension
      obtain ⟨held', atPlace', shape, -⟩ := exists_base_after atPlace extend
      rw [← shape] at arrive'
      have later := ih open' named' atPlace' arrive'
      simpa [repliesAt_cons, mergedAt_call_cons, place, reply] using later
    · have content : (o.call m.call).2.at? slot name = some held :=
        (at?_call_of_elsewhere place).trans atPlace
      simpa [repliesAt_cons, mergedAt_call_cons, place] using ih open' named' content arrive'

/-- Contributions that extend what a place holds are all merged into it: its shape stays, and their
fragments are added to its lists. -/
theorem run_of_base (isOpen : o.consumed = false) (named : ∀ m ∈ ms, m.Named)
    (atPlace : o.at? slot name = some held)
    (arrive : ∀ m ∈ ms, m.GoesTo slot name → m.value.shape.Extends held.shape) :
    (∀ reply ∈ o.repliesAt slot name ms, reply = .ok ()) ∧
      ∃ held', (o.after (ms.map Merging.call)).at? slot name = some held' ∧
        held'.shape = held.shape ∧
        ∀ list ∈ held.shape.lists, held'.fragments list = held.fragments list ++
          (ms.filter (Merging.GoesTo slot name)).flatMap fun m => m.value.fragments list := by
  obtain ⟨succeed, all⟩ := replies_of_base isOpen named atPlace arrive
  have extend : ∀ c ∈ o.mergedAt slot name (ms.map Merging.call), c.shape.Extends held.shape := by
    intro c merged
    rw [all] at merged
    obtain ⟨m, member, rfl⟩ := List.mem_map.mp merged
    obtain ⟨member, place⟩ := List.mem_filter.mp member
    exact arrive m member (of_decide_eq_true place)
  obtain ⟨held', atPlace', shape, lists⟩ := exists_base_after atPlace extend
  refine ⟨succeed, held', atPlace', shape, fun list listed => ?_⟩
  rw [lists list listed, all, List.flatMap_map]

end Content

/-- Merges into an open outcome that holds nothing yet, place by place.

The merges to a place end, and leave the place, as they do without the merges to other places. The
next one to come fails exactly when the place holds something of an unrelated shape, and its failure
names the two shapes. A place is empty when nothing was merged into it. What it holds otherwise has
the shape of one of the contributions merged into it, which all of them extend, and in each list of
this shape the fragments of all of them in the order of the merges. Later merges only make the shape
more basic. When all contributions that they bring to the place extend its shape already, none of
them fails, the shape stays, and their fragments are added. -/
theorem after_merges_place_by_place (o : Outcome) (isOpen : o.consumed = false)
    (blank : ∀ slot name, o.at? slot name = none) (ms : List Merging)
    (named : ∀ m ∈ ms, m.Named) (slot : Slot) (name : String) :
    let r := o.after (ms.map Merging.call)
    let there := ms.filter (Merging.GoesTo slot name)
    let merged := ((ms.zip (o.replies ms)).filter fun (m, reply) =>
      m.GoesTo slot name ∧ reply = .ok ()).map fun (m, _) => m.value
    (r.at? slot name = (o.after (there.map Merging.call)).at? slot name ∧
      o.repliesAt slot name ms = o.replies there) ∧
    (∀ m : Merging, m.Named → m.GoesTo slot name →
      ((r.call m.call).1 = .ok () ↔ ∀ held, r.at? slot name = some held →
        m.value.shape.Extends held.shape ∨ held.shape.Extends m.value.shape) ∧
      ∀ reason, (r.call m.call).1 = .error reason → ∃ held, r.at? slot name = some held ∧
        reason = .mismatch ⟨m.value.shape.name, held.shape.name⟩) ∧
    (r.at? slot name = none ↔ merged = []) ∧
    ∀ held, r.at? slot name = some held →
      held.shape.IsBase (merged.map Contribution.shape) ∧
      (∀ list ∈ held.shape.lists,
        held.fragments list = merged.flatMap fun c => c.fragments list) ∧
      (∀ more, ∃ held', (r.after more).at? slot name = some held' ∧
        held.shape.Extends held'.shape) ∧
      ∀ more : List Merging, (∀ m ∈ more, m.Named) →
        (∀ m ∈ more, m.GoesTo slot name → m.value.shape.Extends held.shape) →
        (∀ reply ∈ r.repliesAt slot name more, reply = .ok ()) ∧
        ∃ held', (r.after (more.map Merging.call)).at? slot name = some held' ∧
          held'.shape = held.shape ∧
          ∀ list ∈ held.shape.lists, held'.fragments list = held.fragments list ++
            (more.filter (Merging.GoesTo slot name)).flatMap fun m => m.value.fragments list := by
  intro r there merged
  have open' : r.consumed = false := isOpen_after isOpen ms
  have nothing : Gathers (o.at? slot name) [] := blank slot name ▸ gathers_none
  have gathered := nothing.after (ms.map Merging.call)
  rw [List.nil_append, mergedAt_eq_filter_replies] at gathered
  refine ⟨run_at_place isOpen isOpen rfl named, fun m named' place => ⟨?_, ?_⟩,
    gathered.none_iff, fun held atPlace => ⟨gathered.isBase held atPlace,
      gathered.fragments held atPlace, fun more => ?_, fun more named' arrive => ?_⟩⟩
  · exact call_eq_ok_iff_related open' named' place
  · intro reason failed
    obtain ⟨held, atPlace, -, eq⟩ := (call_eq_error_iff_unrelated open' named' place).mp failed
    exact ⟨held, atPlace, eq⟩
  · obtain ⟨held', atPlace', extension, -⟩ := exists_gathered_after atPlace more
    exact ⟨held', atPlace', extension⟩
  · exact run_of_base open' named' atPlace arrive

/-- Merges to a type and to a field. Of those to the type the first one has a list more than the
last one, and the one between them has an unrelated shape. -/
def mixedMerges : List Merging :=
  [⟨.type, .filled taggedType .keep "a", none⟩, ⟨.field, .filled .rustField .keep "b", some "x"⟩,
    ⟨.type, .filled .rustFunction .keep "c", none⟩, ⟨.type, .filled .rustType .skip "d", none⟩]

/-- Only the merges to the type tell what the type holds, without the one that fails. A further
merge with the additional list does not fail, and leaves the shape as it is. -/
theorem after_merges_place_by_place_mixed :
    let o := start .rust .record "point"
    let r := o.after (mixedMerges.map Merging.call)
    let more : List Merging := [⟨.type, .filled taggedType .keep "e", none⟩]
    (o.consumed = false ∧ (∀ slot name, o.at? slot name = none) ∧ ∀ m ∈ mixedMerges, m.Named) ∧
      o.replies (mixedMerges.filter (Merging.GoesTo .type "")) =
        [.ok (), .error (.mismatch ⟨"RustFunctionContribution", "TaggedTypeContribution"⟩),
          .ok ()] ∧
      ∃ held, r.at? .type "" = some held ∧ held.shape.IsBase [taggedType, .rustType] ∧
        held.fragments "derives" = ["a", "d"] ∧
        (∀ reply ∈ r.repliesAt .type "" more, reply = .ok ()) ∧
        ∃ held', (r.after (more.map Merging.call)).at? .type "" = some held' ∧
          held'.shape = held.shape ∧
          held'.fragments "derives" = ["a", "d"] ++ ["e"] := by
  intro o r more
  have blank : ∀ slot name, o.at? slot name = none := by
    intro slot name
    cases slot <;> rfl
  have named : ∀ m ∈ mixedMerges, m.Named := by decide
  obtain ⟨⟨-, alone⟩, -, -, holds⟩ :=
    o.after_merges_place_by_place rfl blank mixedMerges named .type ""
  have replies : o.repliesAt .type "" mixedMerges =
      [.ok (), .error (.mismatch ⟨"RustFunctionContribution", "TaggedTypeContribution"⟩),
        .ok ()] := by
    decide
  obtain ⟨held, atPlace, listed, extend⟩ : ∃ held, r.at? .type "" = some held ∧
      "derives" ∈ held.shape.lists ∧ ∀ m ∈ more, m.value.shape.Extends held.shape :=
    ⟨_, rfl, by decide, by decide⟩
  obtain ⟨base, lists, -, later⟩ := holds held atPlace
  have derives : held.fragments "derives" = ["a", "d"] := (lists "derives" listed).trans (by decide)
  obtain ⟨succeed, held', atPlace', shape, added⟩ :=
    later more (by decide) fun m member _ => extend m member
  refine ⟨⟨rfl, blank, named⟩, alone ▸ replies, held, atPlace, base, derives, succeed, held',
    atPlace', shape, ?_⟩
  rw [added "derives" listed, derives]
  rfl

end SchemaWeaver.Outcome
