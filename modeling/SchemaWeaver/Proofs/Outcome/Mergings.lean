import SchemaWeaver.Proofs.Outcome.Calls

/-!
# What calls merge

What an outcome holds after calls depends on the contributions that were merged alone. Of one call
and the calls after it, `run_cases` says how they go on: the places and the action are as they were,
or one contribution has been merged into its place. Statements on runs of calls are proved by
induction along these two cases.
-/

namespace SchemaWeaver.Outcome

/-- Whether a contribution goes to a place: a slot, and for members a name. -/
def Merging.GoesTo (slot : Slot) (name : String) (m : Merging) : Prop :=
  m.slot = slot ∧ (slot.isMember = true → m.name = name)

instance (slot : Slot) (name : String) : DecidablePred (Merging.GoesTo slot name) := fun _ =>
  inferInstanceAs (Decidable (_ ∧ _))

theorem Merging.GoesTo.self (m : Merging) : m.GoesTo m.slot m.name := ⟨rfl, fun _ => rfl⟩

/-- The contributions that calls merge, in the order of the calls. -/
def mergings (o : Outcome) (calls : List Call) : List Merging :=
  (o.accepted calls).filterMap (Call.merging? o.family)

/-- The contributions that calls merge into a place. -/
def mergedAt (o : Outcome) (slot : Slot) (name : String) (calls : List Call) : List Contribution :=
  ((o.mergings calls).filter (Merging.GoesTo slot name)).map Merging.value

/-- A contribution that is merged first comes first at its place. -/
theorem mergedAt_of_mergings {o o' : Outcome} {c : Call} {calls : List Call} {m : Merging}
    (first : o.mergings (c :: calls) = m :: o'.mergings calls) (slot : Slot) (name : String) :
    o.mergedAt slot name (c :: calls) =
      (if m.GoesTo slot name then [m.value] else []) ++ o'.mergedAt slot name calls := by
  rw [mergedAt, first, List.filter_cons]
  by_cases place : m.GoesTo slot name
  · simp [place, mergedAt]
  · simp [place, mergedAt]

/-- Outcomes that hold the same at every place, under the same action. -/
structure SameContent (o o' : Outcome) : Prop where
  at?_eq : ∀ slot name, o'.at? slot name = o.at? slot name
  action_eq : o'.action = o.action

variable {o : Outcome} {m : Merging} {merged : Contribution}

theorem SameContent.refl (o : Outcome) : o.SameContent o := ⟨fun _ _ => rfl, rfl⟩

theorem sameContent_noting (o : Outcome) (c : Call) : o.SameContent (o.noting c) := by
  cases c <;> exact ⟨fun slot _ => by cases slot <;> rfl, rfl⟩

theorem family_noting (o : Outcome) (c : Call) : (o.noting c).family = o.family := by
  cases c <;> rfl

theorem family_taking (o : Outcome) (m : Merging) (merged : Contribution) :
    (o.taking m merged).family = o.family :=
  (o.put_sameVisit m.slot m.name merged).family

theorem family_after (o : Outcome) (calls : List Call) : (o.after calls).family = o.family := by
  induction calls generalizing o with
  | nil => rfl
  | cons c calls ih =>
    rw [after_cons, ih]
    rcases o.call_cases c with ⟨_, _, eq⟩ | ⟨_, _, _, _, eq⟩ | ⟨_, _, eq⟩
    · rw [eq]
    · rw [eq]
      exact o.family_taking ..
    · rw [eq]
      exact o.family_noting c

theorem at?_taking (o : Outcome) (m : Merging) (merged : Contribution) (slot : Slot)
    (name : String) : (o.taking m merged).at? slot name =
      if m.GoesTo slot name then some merged else o.at? slot name := by
  have written := o.at?_put m.slot slot m.name name merged
  cases slot <;> exact written

/-- Contributions to one place find the same there. -/
theorem at?_of_goesTo_place {slot : Slot} {name : String} (h : m.GoesTo slot name) :
    o.at? slot name = o.at? m.slot m.name := by
  obtain ⟨rfl, same⟩ := h
  exact o.at?_congr fun isMember => (same isMember).symm

/-- A call that merges a contribution does so before the calls after it. -/
theorem mergings_of_taking {c : Call} (merging : c.merging? o.family = some m)
    (eq : o.call c = (.ok (), o.taking m merged)) (calls : List Call) :
    o.mergings (c :: calls) = m :: (o.taking m merged).mergings calls := by
  simp only [mergings, accepted, eq]
  rw [List.filterMap_cons_some merging, family_taking]

/-- How a call and the calls after it go on. -/
theorem run_cases (o : Outcome) (c : Call) (calls : List Call) :
    (∃ o', o.SameContent o' ∧ o.after (c :: calls) = o'.after calls ∧
      o.mergings (c :: calls) = o'.mergings calls) ∨
    ∃ m merged, o.Merges m merged ∧ o.after (c :: calls) = (o.taking m merged).after calls ∧
      o.mergings (c :: calls) = m :: (o.taking m merged).mergings calls := by
  rw [after_cons]
  rcases o.call_cases c with ⟨reason, -, eq⟩ | ⟨m, merged, merging, merges, eq⟩ | ⟨merging, -, eq⟩
  · exact .inl ⟨o, .refl o, by rw [eq], by simp only [mergings, accepted, eq]⟩
  · exact .inr ⟨m, merged, merges, by rw [eq], mergings_of_taking merging eq calls⟩
  · refine .inl ⟨o.noting c, o.sameContent_noting c, by rw [eq], ?_⟩
    simp only [mergings, accepted, eq]
    rw [List.filterMap_cons_none merging, family_noting]

end SchemaWeaver.Outcome
