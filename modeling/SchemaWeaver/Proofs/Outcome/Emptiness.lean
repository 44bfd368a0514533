import SchemaWeaver.Proofs.Outcome.Action
import SchemaWeaver.Report

/-!
# How long content lasts

Merged contributions have the more basic of their two shapes, and with it only the lists that both
have. So a fragment stays for as long as all contributions that come to its place have its list; a
list that a shape adds to those it extends is given up to the first contribution without it. An
outcome with content can lose all of it, but only to a merge that brings nothing and gives up the
only lists with fragments. Every other call leaves content behind.
-/

namespace SchemaWeaver

/-- The contribution with a single fragment. -/
def Contribution.ofFragment (shape : Shape) (list fragment : String) : Contribution :=
  tabulate shape .keep fun name => if name = list then [fragment] else []

namespace Outcome

/-- The fragments in a list of what a place holds. -/
def fragmentsAt (o : Outcome) (slot : Slot) (name list : String) : List String :=
  (o.at? slot name).elim [] fun c => c.fragments list

/-- What a place holds, if anything, has a list. -/
def HasList (o : Outcome) (slot : Slot) (name list : String) : Prop :=
  ∀ held, o.at? slot name = some held → list ∈ held.shape.lists

/-- A merge that leaves an outcome with nothing: it brings no fragment and no request to skip, there
is no other content, and all fragments of its place are in lists that the more basic shape of the
new contribution lacks. -/
structure Sheds (o : Outcome) (m : Merging) : Prop where
  isOpen : o.consumed = false
  named : m.Named
  keeps : o.action = .keep ∧ m.value.action = .keep
  brings_nothing : m.value.isEmpty = true
  alone : ∀ slot name, ¬m.GoesTo slot name → ∀ list, o.fragmentsAt slot name list = []
  gives_up : ∃ held, o.at? m.slot m.name = some held ∧ held.isEmpty = false ∧
    held.shape.Extends m.value.shape ∧ ∀ list ∈ m.value.shape.lists, held.fragments list = []

variable {o o' : Outcome} {m : Merging} {merged : Contribution} {slot : Slot} {name list : String}

theorem SameContent.fragmentsAt (same : o.SameContent o') (slot : Slot) (name list : String) :
    o'.fragmentsAt slot name list = o.fragmentsAt slot name list := by
  unfold Outcome.fragmentsAt
  rw [same.at?_eq]

theorem fragmentsAt_of_at? {held : Contribution} (atPlace : o.at? slot name = some held) :
    o.fragmentsAt slot name list = held.fragments list := by
  rw [fragmentsAt, atPlace]
  rfl

/-- An outcome is empty when it keeps the default code and no list of any place has a fragment. -/
theorem isEmpty_iff : o.isEmpty = true ↔
    o.action = .keep ∧ ∀ slot name list, o.fragmentsAt slot name list = [] := by
  simp only [isEmpty, Bool.and_eq_true, decide_eq_true_eq, List.all_eq_true, mem_contributions_iff,
    Contribution.isEmpty_iff]
  refine and_congr_right fun _ => ⟨fun h slot name list => ?_, fun h c held list => ?_⟩
  · cases held : o.at? slot name with
    | none => rw [fragmentsAt, held]; rfl
    | some c =>
      rw [fragmentsAt_of_at? held]
      exact h c ⟨slot, name, held⟩ list
  · obtain ⟨slot, name, held⟩ := held
    exact (fragmentsAt_of_at? held).symm.trans (h slot name list)

theorem SameContent.isEmpty_eq (same : o.SameContent o') : o'.isEmpty = o.isEmpty := by
  rw [Bool.eq_iff_iff, isEmpty_iff, isEmpty_iff, same.action_eq]
  simp only [same.fragmentsAt]

theorem common?_of_combine {held c : Contribution} (h : combine (some held) c = .ok merged) :
    held.shape.common? c.shape = some merged.shape :=
  (Contribution.merge_eq_ok (merge_of_combine h)).1

/-- A place has, after a merge, the lists that it had before and the new contribution has. -/
theorem fragments_of_combine {held? : Option Contribution} {c : Contribution}
    (h : combine held? c = .ok merged) (list : String) :
    (list ∈ merged.shape.lists ↔
      list ∈ c.shape.lists ∧ ∀ held, held? = some held → list ∈ held.shape.lists) ∧
    merged.fragments list =
      if list ∈ merged.shape.lists then
        (held?.elim [] fun held => held.fragments list) ++ c.fragments list
      else [] := by
  cases held? with
  | none =>
    cases h
    refine ⟨by simp, ?_⟩
    split
    · rfl
    · rename_i lacks
      exact Contribution.fragments_of_notMem lacks
  | some held =>
    obtain ⟨common, -, lists⟩ := Contribution.merge_eq_ok (merge_of_combine h)
    have mem := Shape.mem_lists_of_common? common list
    refine ⟨by rw [mem, and_comm]; simp, ?_⟩
    rw [lists]
    exact if_congr mem.symm rfl rfl

theorem fragmentsAt_taking (merges : o.Merges m merged) (slot : Slot) (name list : String) :
    (o.taking m merged).fragmentsAt slot name list =
      if m.GoesTo slot name then
        if list ∈ merged.shape.lists then o.fragmentsAt slot name list ++ m.value.fragments list
        else []
      else o.fragmentsAt slot name list := by
  unfold fragmentsAt
  rw [at?_taking]
  by_cases place : m.GoesTo slot name
  · rw [if_pos place, if_pos place, at?_of_goesTo_place place]
    exact (fragments_of_combine merges.combined list).2
  · rw [if_neg place, if_neg place]

/-- A list that both the place and the new contribution have is kept. -/
theorem HasList.taking (has : o.HasList slot name list) (merges : o.Merges m merged)
    (brought : m.GoesTo slot name → list ∈ m.value.shape.lists) :
    (o.taking m merged).HasList slot name list := by
  intro held atPlace
  rw [at?_taking] at atPlace
  split at atPlace
  · rename_i place
    cases atPlace
    refine (fragments_of_combine merges.combined list).1.mpr ⟨brought place, ?_⟩
    rwa [HasList, at?_of_goesTo_place place] at has
  · exact has held atPlace

theorem mem_lists_of_goesTo (has : o.HasList slot name list) (merges : o.Merges m merged)
    (place : m.GoesTo slot name) (brought : list ∈ m.value.shape.lists) :
    list ∈ merged.shape.lists := by
  refine (fragments_of_combine merges.combined list).1.mpr ⟨brought, ?_⟩
  rwa [HasList, at?_of_goesTo_place place] at has

/-- A list that every contribution to a place has holds all their fragments, one contribution after
another, behind those that it held before. -/
theorem fragmentsAt_after (calls : List Call) (has : o.HasList slot name list)
    (brought : ∀ c ∈ o.mergedAt slot name calls, list ∈ c.shape.lists) :
    (o.after calls).fragmentsAt slot name list = o.fragmentsAt slot name list ++
      (o.mergedAt slot name calls).flatMap fun c => c.fragments list := by
  induction calls generalizing o with
  | nil => exact (List.append_nil _).symm
  | cons c calls ih =>
    unfold mergedAt at brought ⊢
    rcases o.run_cases c calls with
      ⟨o', same, after, mergings⟩ | ⟨m, merged, merges, after, mergings⟩
    · rw [mergings] at brought ⊢
      have has' : o'.HasList slot name list := by
        unfold HasList
        rwa [same.at?_eq]
      rw [after, ih has' brought, same.fragmentsAt]
      rfl
    · rw [mergings] at brought ⊢
      rw [after]
      by_cases place : m.GoesTo slot name
      · rw [List.filter_cons, if_pos (decide_eq_true place), List.map_cons] at brought ⊢
        have first := brought m.value (List.mem_cons_self ..)
        rw [ih (has.taking merges fun _ => first) fun c member =>
            brought c (List.mem_cons_of_mem _ member),
          fragmentsAt_taking merges, if_pos place,
          if_pos (mem_lists_of_goesTo has merges place first), List.flatMap_cons,
          List.append_assoc]
        rfl
      · rw [List.filter_cons, if_neg (mt of_decide_eq_true place)] at brought ⊢
        rw [ih (has.taking merges fun h => absurd h place) brought, fragmentsAt_taking merges,
          if_neg place]
        rfl

/-- An outcome with content that is not marked has a fragment somewhere. -/
theorem exists_fragment (content : o.isEmpty = false) (unmarked : o.action = .keep) :
    ∃ slot name list, o.fragmentsAt slot name list ≠ [] := by
  by_contra nothing
  push Not at nothing
  rw [isEmpty_iff.mpr ⟨unmarked, nothing⟩] at content
  cases content

/-- Where there is a fragment, something is held that has its list. -/
theorem exists_at?_of_fragment (fragment : o.fragmentsAt slot name list ≠ []) :
    ∃ held, o.at? slot name = some held ∧ list ∈ held.shape.lists := by
  cases atPlace : o.at? slot name with
  | none =>
    rw [fragmentsAt, atPlace] at fragment
    exact absurd rfl fragment
  | some held =>
    rw [fragmentsAt_of_at? atPlace] at fragment
    refine ⟨held, rfl, ?_⟩
    by_contra unlisted
    exact fragment (Contribution.fragments_of_notMem unlisted)

/-- A place loses a list only to a contribution of a more basic shape, and gets that shape. -/
theorem extends_of_lost {held : Contribution} (h : combine (some held) m.value = .ok merged)
    (listed : list ∈ held.shape.lists) (lost : list ∉ merged.shape.lists) :
    held.shape.Extends m.value.shape ∧ merged.shape = m.value.shape := by
  rcases Shape.common?_eq_some (common?_of_combine h) with ⟨-, same⟩ | extension
  · exact absurd (same ▸ listed) lost
  · exact extension

/-- A merge that empties an outcome sheds its content. -/
theorem sheds_of_isEmpty_taking (merges : o.Merges m merged) (content : o.isEmpty = false)
    (emptied : (o.taking m merged).isEmpty = true) : o.Sheds m := by
  obtain ⟨unmarked, nothing⟩ := isEmpty_iff.mp emptied
  have keeps := Action.max_eq_keep_iff.mp unmarked
  have alone : ∀ slot name, ¬m.GoesTo slot name → ∀ list, o.fragmentsAt slot name list = [] := by
    intro slot name elsewhere list
    rw [← nothing slot name list, fragmentsAt_taking merges, if_neg elsewhere]
  have shared : ∀ list ∈ merged.shape.lists,
      o.fragmentsAt m.slot m.name list = [] ∧ m.value.fragments list = [] := by
    intro list common
    have both := nothing m.slot m.name list
    rw [fragmentsAt_taking merges, if_pos (.self m), if_pos common] at both
    exact List.append_eq_nil_iff.mp both
  -- All content is at the place of the merge, in a list that the place loses.
  obtain ⟨list, fragment⟩ : ∃ list, o.fragmentsAt m.slot m.name list ≠ [] := by
    obtain ⟨slot, name, list, fragment⟩ := exists_fragment content keeps.1
    have place : m.GoesTo slot name := by
      by_contra elsewhere
      exact fragment (alone slot name elsewhere list)
    rw [fragmentsAt, at?_of_goesTo_place place] at fragment
    exact ⟨list, fragment⟩
  have lost : list ∉ merged.shape.lists := fun common => fragment (shared list common).1
  obtain ⟨held, atPlace, listed⟩ := exists_at?_of_fragment fragment
  have combined := merges.combined
  rw [atPlace] at combined
  obtain ⟨extension, shape⟩ := extends_of_lost combined listed lost
  rw [shape] at shared
  refine ⟨merges.isOpen, merges.named, keeps, ?_, alone, held, atPlace, ?_, extension, ?_⟩
  · refine Contribution.isEmpty_iff.mpr fun list => ?_
    by_cases listed : list ∈ m.value.shape.lists
    · exact (shared list listed).2
    · exact Contribution.fragments_of_notMem listed
  · rw [← Bool.not_eq_true, Contribution.isEmpty_iff]
    intro empty
    exact fragment ((fragmentsAt_of_at? atPlace).trans (empty list))
  · intro list listed
    exact (fragmentsAt_of_at? atPlace).symm.trans (shared list listed).1

theorem Sheds.merges (sheds : o.Sheds m) : ∃ merged, o.Merges m merged := by
  obtain ⟨held, found, -, extension, -⟩ := sheds.gives_up
  cases combined : combine (o.at? m.slot m.name) m.value with
  | ok merged => exact ⟨merged, sheds.isOpen, sheds.named, combined⟩
  | error reason =>
    obtain ⟨held', found', ⟨-, unrelated⟩, -⟩ := combine_eq_error_iff.mp combined
    cases found.symm.trans found'
    exact absurd extension unrelated

theorem Sheds.content (sheds : o.Sheds m) : o.isEmpty = false := by
  obtain ⟨held, found, fragments, -⟩ := sheds.gives_up
  rw [← Bool.not_eq_true, isEmpty_iff]
  rintro ⟨-, nothing⟩
  have empty : held.isEmpty = true := Contribution.isEmpty_iff.mpr fun list => by
    rw [← fragmentsAt_of_at? found]
    exact nothing ..
  rw [fragments] at empty
  cases empty

theorem Sheds.isEmpty_taking (sheds : o.Sheds m) (merges : o.Merges m merged) :
    (o.taking m merged).isEmpty = true := by
  obtain ⟨held, found, -, -, shared⟩ := sheds.gives_up
  refine isEmpty_iff.mpr ⟨Action.max_eq_keep_iff.mpr sheds.keeps, fun slot name list => ?_⟩
  rw [fragmentsAt_taking merges]
  by_cases place : m.GoesTo slot name
  · rw [if_pos place]
    split
    · rename_i common
      have listed := ((fragments_of_combine merges.combined list).1.mp common).1
      rw [fragmentsAt, at?_of_goesTo_place place, found,
        Contribution.isEmpty_iff.mp sheds.brings_nothing list]
      exact (List.append_nil _).trans (shared list listed)
    · rfl
  · rw [if_neg place]
    exact sheds.alone slot name place list

/-- Exactly the merges that shed its content empty an outcome. -/
theorem isEmpty_call_iff {c : Call} : (o.isEmpty = false ∧ (o.call c).2.isEmpty = true) ↔
    ∃ m, c.merging? o.family = some m ∧ o.Sheds m := by
  constructor
  · rintro ⟨content, emptied⟩
    rcases o.call_cases c with ⟨_, -, eq⟩ | ⟨m, merged, merging, merges, eq⟩ | ⟨-, -, eq⟩
    · rw [eq, content] at emptied
      cases emptied
    · rw [eq] at emptied
      exact ⟨m, merging, sheds_of_isEmpty_taking merges content emptied⟩
    · rw [eq, (o.sameContent_noting c).isEmpty_eq, content] at emptied
      cases emptied
  · rintro ⟨m, merging, sheds⟩
    obtain ⟨merged, merges⟩ := sheds.merges
    refine ⟨sheds.content, ?_⟩
    rw [call_eq, operate_of_merges merging merges]
    exact sheds.isEmpty_taking merges

/-- Calls of which none sheds the content that it finds. -/
def NoneSheds (o : Outcome) (calls : List Call) : Prop :=
  ∀ before c later m, calls = before ++ c :: later → c.merging? o.family = some m →
    ¬(o.after before).Sheds m

/-- Contributions with fragments shed nothing. -/
theorem noneSheds_of_fragments {calls : List Call}
    (brings : ∀ c ∈ calls, ∀ m ∈ c.merging? o.family, m.value.isEmpty = false) :
    o.NoneSheds calls := by
  rintro before c later m rfl merging sheds
  have fragments := brings c (List.mem_append_right _ (List.mem_cons_self ..)) m merging
  rw [sheds.brings_nothing] at fragments
  cases fragments

/-- Content stays as long as no call sheds it. -/
theorem isEmpty_after (content : o.isEmpty = false) {calls : List Call}
    (noneSheds : o.NoneSheds calls) : (o.after calls).isEmpty = false := by
  induction calls using List.reverseRecOn with
  | nil => exact content
  | append_singleton calls c ih =>
    have before : (o.after calls).isEmpty = false :=
      ih fun first c' later m split =>
        noneSheds first c' (later ++ [c]) m (by rw [split, List.append_assoc, List.cons_append])
    rw [after_append]
    by_contra emptied
    obtain ⟨m, merging, sheds⟩ :=
      isEmpty_call_iff.mp ⟨before, Bool.not_eq_false _ ▸ emptied⟩
    rw [family_after] at merging
    exact noneSheds calls c [] m rfl merging sheds

/-- How long content lasts under calls:
a mark to be skipped stays, and with it the content;
a list at a place keeps its fragments, in front of those that calls bring, as long as what is there
and every contribution that calls merge into the place has that list;
a call empties an outcome with content exactly when it sheds all of it;
if no call does, the content stays, and a report that has the outcome tells it. -/
theorem after_keeps_content (o : Outcome) (calls : List Call) :
    let r := o.after calls
    (o.action = .skip → r.action = .skip ∧ r.isEmpty = false) ∧
    (∀ slot name list, o.HasList slot name list →
      (∀ c ∈ o.mergedAt slot name calls, list ∈ c.shape.lists) →
      r.fragmentsAt slot name list = o.fragmentsAt slot name list ++
        (o.mergedAt slot name calls).flatMap fun c => c.fragments list) ∧
    (∀ c, (r.isEmpty = false ∧ (r.call c).2.isEmpty = true) ↔
      ∃ m, c.merging? r.family = some m ∧ r.Sheds m) ∧
    (o.isEmpty = false → o.NoneSheds calls → r.isEmpty = false ∧
      ∀ report : Report, r ∈ report.outcomes → r ∈ report.told false) := by
  intro r
  refine ⟨fun marked => ?_, fun slot name list has brought => fragmentsAt_after calls has brought,
    fun c => isEmpty_call_iff, fun content noneSheds => ?_⟩
  · have stays : r.action = .skip := (o.action_after_iff calls).mpr (.inl marked)
    refine ⟨stays, ?_⟩
    rw [← Bool.not_eq_true, isEmpty_iff, stays]
    exact fun empty => nomatch empty.1
  · have content : r.isEmpty = false := isEmpty_after content noneSheds
    refine ⟨content, fun report reported => List.mem_filter.mpr ⟨reported, ?_⟩⟩
    rw [content]
    rfl

/-- A shape with one list more than that of Rust types. -/
def taggedType : Shape := Shape.rustType.extend ⟨"TaggedTypeContribution", ["tags"], []⟩

/-- The outcome of a visit that brought a tag. -/
def tagged : Outcome :=
  (start .rust .record "point").after [.mergeType (.ofFragment taggedType "tags" "marked")]

/-- A tag is kept beside an attribute that comes later with the list of tags; a mark to be skipped
is kept beside anything. -/
theorem after_keeps_content_tagged :
    let calls := [.mergeType (.ofFragment taggedType "attributes" "#[must_use]"), .consume]
    let r := tagged.after calls
    let marked := (start .rust .record "point").after
      [.mergeType (Contribution.empty .rustType).skipDefault]
    r.fragmentsAt .type "" "tags" = ["marked"] ∧ tagged.NoneSheds calls ∧ r.isEmpty = false ∧
      r ∈ Report.told ⟨"demo", [r]⟩ false ∧ (marked.after calls).isEmpty = false := by
  intro calls r marked
  have has : tagged.HasList .type "" "tags" := by
    intro held atPlace
    cases atPlace
    decide
  have brought : ∀ c ∈ tagged.mergedAt .type "" calls, "tags" ∈ c.shape.lists := by decide
  have brings : ∀ c ∈ calls, ∀ m ∈ c.merging? tagged.family, m.value.isEmpty = false := by decide
  have noneSheds : tagged.NoneSheds calls := noneSheds_of_fragments brings
  obtain ⟨-, kept, -, stays⟩ := tagged.after_keeps_content calls
  obtain ⟨content, reported⟩ := stays (by decide) noneSheds
  have tags : r.fragmentsAt .type "" "tags" = ["marked"] := by
    rw [kept .type "" "tags" has brought]
    decide
  exact ⟨tags, noneSheds, content, reported _ (List.mem_singleton_self r),
    ((marked.after_keeps_content calls).1 (by decide)).2⟩

/-- A tag is lost to a contribution without fragments that lacks the list of tags, and a report does
not tell the outcome any more. -/
theorem tag_lost :
    let r := tagged.after [.mergeType (.empty .rustType)]
    tagged.isEmpty = false ∧ tagged.fragmentsAt .type "" "tags" = ["marked"] ∧
      r.isEmpty = true ∧ Report.told ⟨"demo", [tagged]⟩ false = [tagged] ∧
      Report.told ⟨"demo", [r]⟩ false = [] := by
  decide

end Outcome

end SchemaWeaver
