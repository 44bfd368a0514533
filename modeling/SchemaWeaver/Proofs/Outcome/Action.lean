import SchemaWeaver.Proofs.Outcome.Mergings

/-!
# One request to skip is enough

An outcome is marked to be skipped in two places: in its own action, and in the actions of the
contributions that it holds. Both are raised by a merge, by different rules, and both tell the same:
whether one of the contributions merged so far asked to skip. So the mark never goes away, and the
order of the merges does not matter.
-/

namespace SchemaWeaver.Outcome

/-- An outcome is marked exactly when it holds a contribution that is. -/
def TellsSkips (o : Outcome) : Prop :=
  o.action = .skip ↔ ∃ slot name c, o.at? slot name = some c ∧ c.action = .skip

variable {o o' : Outcome} {m : Merging} {merged : Contribution}

theorem tellsSkips_start (family : Backend) (kind : NodeKind) (name : String) :
    (start family kind name).TellsSkips := by
  constructor
  · intro marked
    cases marked
  · rintro ⟨slot, name, c, held, -⟩
    cases slot <;> cases held

theorem SameContent.tellsSkips (same : o.SameContent o') (h : o.TellsSkips) : o'.TellsSkips := by
  unfold TellsSkips at h ⊢
  rw [same.action_eq, h]
  simp only [same.at?_eq]

/-- A contribution that was merged asks to skip when one of its parts does. -/
theorem action_of_combine {held? : Option Contribution} {c : Contribution}
    (h : combine held? c = .ok merged) :
    merged.action = .skip ↔
      (∃ held, held? = some held ∧ held.action = .skip) ∨ c.action = .skip := by
  cases held? with
  | none =>
    cases h
    simp
  | some held =>
    rw [(Contribution.merge_eq_ok (merge_of_combine h)).2.1, Action.max_eq_skip_iff]
    simp

theorem action_taking : (o.taking m merged).action = .skip ↔
    o.action = .skip ∨ m.value.action = .skip :=
  Action.max_eq_skip_iff

theorem TellsSkips.taking (h : o.TellsSkips) (merges : o.Merges m merged) :
    (o.taking m merged).TellsSkips := by
  have parts := action_of_combine merges.combined
  unfold TellsSkips at h ⊢
  rw [action_taking, h]
  constructor
  · rintro (⟨slot, name, c, held, asks⟩ | asks)
    · by_cases place : m.GoesTo slot name
      · rw [at?_of_goesTo_place place] at held
        refine ⟨slot, name, merged, ?_, parts.mpr (.inl ⟨c, held, asks⟩)⟩
        rw [at?_taking, if_pos place]
      · exact ⟨slot, name, c, by rw [at?_taking, if_neg place, held], asks⟩
    · refine ⟨m.slot, m.name, merged, ?_, parts.mpr (.inr asks)⟩
      rw [at?_taking, if_pos ⟨rfl, fun _ => rfl⟩]
  · rintro ⟨slot, name, c, held, asks⟩
    rw [at?_taking] at held
    split at held
    · cases held
      exact (parts.mp asks).imp_left fun ⟨before, found, asked⟩ =>
        ⟨m.slot, m.name, before, found, asked⟩
    · exact .inl ⟨slot, name, c, held, asks⟩

theorem TellsSkips.after (h : o.TellsSkips) (calls : List Call) : (o.after calls).TellsSkips := by
  induction calls generalizing o with
  | nil => exact h
  | cons c calls ih =>
    rcases o.run_cases c calls with ⟨o', same, after, -⟩ | ⟨m, merged, merges, after, -⟩
    · rw [after]
      exact ih (same.tellsSkips h)
    · rw [after]
      exact ih (h.taking merges)

/-- After calls an outcome is marked when it was so before, or when one of the contributions that
they merged asks to skip. -/
theorem action_after_iff (o : Outcome) (calls : List Call) : (o.after calls).action = .skip ↔
    o.action = .skip ∨ ∃ m ∈ o.mergings calls, m.value.action = .skip := by
  induction calls generalizing o with
  | nil => exact ⟨.inl, fun h => h.resolve_right nofun⟩
  | cons c calls ih =>
    rcases o.run_cases c calls with ⟨o', same, after, mergings⟩ | ⟨m, merged, -, after, mergings⟩
    · rw [after, mergings, ih, same.action_eq]
    · rw [after, mergings, ih, action_taking, or_assoc]
      simp only [List.mem_cons, exists_eq_or_imp]

/-- A fresh outcome is marked by calls exactly when one of the contributions that they merge asks to
skip, and exactly when it then holds one that does. The mark stays whatever calls follow, and it
does not depend on the order in which contributions are merged. -/
theorem action_tells_skips (family : Backend) (kind : NodeKind) (name : String)
    (calls : List Call) :
    let fresh := start family kind name
    let o := fresh.after calls
    (o.action = .skip ↔ ∃ m ∈ fresh.mergings calls, m.value.action = .skip) ∧
    (o.action = .skip ↔ ∃ c ∈ o.contributions, c.action = .skip) ∧
    (o.action = .skip → ∀ more, (o.after more).action = .skip) ∧
    ∀ others, (fresh.mergings others).Perm (fresh.mergings calls) →
      (fresh.after others).action = o.action := by
  intro fresh o
  have unmarked : ¬fresh.action = .skip := nofun
  have told (calls : List Call) : (fresh.after calls).action = .skip ↔
      ∃ m ∈ fresh.mergings calls, m.value.action = .skip :=
    (fresh.action_after_iff calls).trans (or_iff_right unmarked)
  have held : o.action = .skip ↔ ∃ c ∈ o.contributions, c.action = .skip := by
    refine ((tellsSkips_start family kind name).after calls).trans ?_
    simp only [mem_contributions_iff]
    constructor
    · rintro ⟨slot, name, c, found, asks⟩
      exact ⟨c, ⟨slot, name, found⟩, asks⟩
    · rintro ⟨c, ⟨slot, name, found⟩, asks⟩
      exact ⟨slot, name, c, found, asks⟩
  refine ⟨told calls, held, fun marked more => ?_, fun others reordered => ?_⟩
  · exact (o.action_after_iff more).mpr (.inl marked)
  · apply Action.eq_of_skip_iff
    rw [told others, told calls]
    simp only [reordered.mem_iff]

/-- Calls that merge a contribution to a field and two to a case; the first contribution to the case
asks to skip. The second contribution to the field is refused. -/
def skippingCalls : List Call :=
  [.mergeField "x" (.empty .rustField), .mergeField "x" (.empty .rustType),
    .mergeCase "a" (Contribution.empty .rustCase).skipDefault, .addCaseAttribute "a" "#[default]",
    .consume]

/-- The calls with the merges in another order. -/
def reorderedCalls : List Call :=
  [.addCaseAttribute "a" "#[default]", .mergeCase "a" (Contribution.empty .rustCase).skipDefault,
    .mergeField "x" (.empty .rustField)]

theorem action_tells_skips_reordered :
    let fresh := start .rust .variant "shape"
    (fresh.mergings reorderedCalls).Perm (fresh.mergings skippingCalls) ∧
      (fresh.after skippingCalls).action = .skip ∧
      (fresh.after reorderedCalls).action = .skip ∧
      ∀ more, ((fresh.after skippingCalls).after more).action = .skip := by
  intro fresh
  obtain ⟨-, -, stays, unordered⟩ := action_tells_skips .rust .variant "shape" skippingCalls
  have reordered : (fresh.mergings reorderedCalls).Perm (fresh.mergings skippingCalls) := by
    decide
  have marked : (fresh.after skippingCalls).action = .skip := by decide
  exact ⟨reordered, marked, (unordered reorderedCalls reordered).trans marked, stays marked⟩

end SchemaWeaver.Outcome
