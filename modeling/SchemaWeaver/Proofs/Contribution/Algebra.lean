import SchemaWeaver.Contribution.Builtin
import SchemaWeaver.Proofs.Contribution.Merge

/-!
# The algebra of merging

Merging is partial: it is defined for contributions of which one shape extends the other, and the
result has the more basic of the two shapes. The most basic of some shapes is `IsBase`, one of them
that all of them extend. There is at most one, so it does not matter how a merge of three
contributions is grouped, as long as both ways are defined. For contributions of one shape merging
is a monoid, whose unit is the contribution without fragments.
-/

namespace SchemaWeaver

theorem Action.max_assoc (a b c : Action) : (a.max b).max c = a.max (b.max c) := by
  cases a <;> rfl

namespace Shape

/-- Two shapes of which one extends the other. -/
def Related (a b : Shape) : Prop := a.Extends b ∨ b.Extends a

instance (a b : Shape) : Decidable (a.Related b) := inferInstanceAs (Decidable (_ ∨ _))

theorem Related.symm {a b : Shape} (h : a.Related b) : b.Related a := Or.symm h

/-- The most basic of some shapes: one of them that all of them extend. -/
structure IsBase (base : Shape) (shapes : List Shape) : Prop where
  mem : base ∈ shapes
  extended : ∀ shape ∈ shapes, shape.Extends base

section IsBase

variable {a b base base' : Shape} {shapes shapes' : List Shape}

theorem IsBase.unique (h : base.IsBase shapes) (h' : base'.IsBase shapes) : base = base' :=
  (h'.extended base h.mem).antisymm (h.extended base' h'.mem)

theorem IsBase.of_mem_iff (h : base.IsBase shapes)
    (same : ∀ shape, shape ∈ shapes ↔ shape ∈ shapes') : base.IsBase shapes' :=
  ⟨(same base).mp h.mem, fun shape member => h.extended shape ((same shape).mpr member)⟩

theorem isBase_singleton (shape : Shape) : shape.IsBase [shape] :=
  ⟨List.mem_singleton_self shape, fun _ member => List.mem_singleton.mp member ▸ .refl shape⟩

/-- The base of two shapes is the one that the other extends. -/
theorem isBase_pair_iff :
    base.IsBase [a, b] ↔ b.Extends a ∧ base = a ∨ a.Extends b ∧ base = b := by
  constructor
  · rintro ⟨mem, extended⟩
    rw [List.mem_cons, List.mem_singleton] at mem
    rcases mem with rfl | rfl
    · exact .inl ⟨extended b (by simp), rfl⟩
    · exact .inr ⟨extended a (by simp), rfl⟩
  · rintro (⟨extension, rfl⟩ | ⟨extension, rfl⟩)
    · exact ⟨by simp, by simp [Extends.refl, extension]⟩
    · exact ⟨by simp, by simp [Extends.refl, extension]⟩

/-- The base of two bases is the base of all shapes. -/
theorem IsBase.append (first : a.IsBase shapes) (second : b.IsBase shapes')
    (both : base.IsBase [a, b]) : base.IsBase (shapes ++ shapes') where
  mem := by
    rcases isBase_pair_iff.mp both with ⟨-, rfl⟩ | ⟨-, rfl⟩
    · exact List.mem_append_left _ first.mem
    · exact List.mem_append_right _ second.mem
  extended shape member := by
    rcases List.mem_append.mp member with left | right
    · exact (first.extended shape left).trans (both.extended a (by simp))
    · exact (second.extended shape right).trans (both.extended b (by simp))

/-- The common shape of two shapes is their base. -/
theorem common?_eq_some_iff : a.common? b = some base ↔ base.IsBase [a, b] := by
  refine ⟨fun common => isBase_pair_iff.mpr (common?_eq_some common), fun isBase => ?_⟩
  cases common : a.common? b with
  | some shape => rw [(isBase_pair_iff.mpr (common?_eq_some common)).unique isBase]
  | none =>
    obtain ⟨unrelated, unrelated'⟩ := common?_eq_none_iff.mp common
    rcases isBase_pair_iff.mp isBase with ⟨extension, -⟩ | ⟨extension, -⟩
    · exact absurd extension unrelated
    · exact absurd extension unrelated'

theorem common?_comm (a b : Shape) : a.common? b = b.common? a := by
  refine Option.ext fun base => ?_
  rw [common?_eq_some_iff, common?_eq_some_iff]
  have swap (a b shape : Shape) : shape ∈ [a, b] ↔ shape ∈ [b, a] := by
    simp [or_comm]
  exact ⟨fun h => h.of_mem_iff (swap a b), fun h => h.of_mem_iff (swap b a)⟩

theorem exists_common?_iff : (∃ base, a.common? b = some base) ↔ a.Related b := by
  rw [← Option.isSome_iff_exists, ← not_iff_not, Option.not_isSome_iff_eq_none,
    common?_eq_none_iff, Related, not_or, and_comm]

end IsBase

end Shape

namespace Contribution

/-- A contribution is told by its shape, its action and the fragments in its lists. -/
theorem tabulate_fragments (c : Contribution) : tabulate c.shape c.action c.fragments = c := by
  have entries : c.shape.lists.map (fun list => (list, c.fragments list)) = c.lists.entries := by
    rw [← c.keys_lists, OrderedMap.keys, List.map_map]
    refine (List.map_congr_left fun entry member => ?_).trans (List.map_id _)
    have held : c.lists.find? entry.1 = some entry.2 := OrderedMap.find?_eq_some_iff.mpr member
    simp [fragments, held]
  obtain ⟨shape, action, ⟨written, nodup⟩, keys⟩ := c
  simp only [tabulate, Contribution.mk.injEq, OrderedMap.mk.injEq, true_and]
  exact entries

theorem eq_of_fragments {c d : Contribution} (shape : c.shape = d.shape)
    (action : c.action = d.action) (lists : ∀ list, c.fragments list = d.fragments list) :
    c = d := by
  rw [← c.tabulate_fragments, ← d.tabulate_fragments, shape, action, funext lists]

section Merge

variable {a b c ab bc left right merged : Contribution}

/-- The shape of a merge is the base of the two shapes. -/
theorem isBase_of_merge (h : a.merge b = .ok merged) : merged.shape.IsBase [a.shape, b.shape] :=
  Shape.common?_eq_some_iff.mp (merge_eq_ok h).1

/-- A merge has in every list of its shape the fragments of both contributions. -/
theorem fragments_of_merge (h : a.merge b = .ok merged) {list : String}
    (listed : list ∈ merged.shape.lists) :
    merged.fragments list = a.fragments list ++ b.fragments list := by
  obtain ⟨common, -, lists⟩ := merge_eq_ok h
  rw [lists, if_pos ((Shape.mem_lists_of_common? common list).mp listed)]

theorem exists_merge_iff : (∃ merged, a.merge b = .ok merged) ↔ a.shape.Related b.shape := by
  rw [← Shape.exists_common?_iff, merge]
  cases a.shape.common? b.shape with
  | some shape => simp
  | none => simp

/-- The lists of a merge are lists of both contributions. -/
theorem lists_subset_of_merge (h : a.merge b = .ok merged) :
    merged.shape.lists ⊆ a.shape.lists ∧ merged.shape.lists ⊆ b.shape.lists :=
  have base := isBase_of_merge h
  ⟨Shape.lists_subset_of_extends (base.extended _ (by simp)),
    Shape.lists_subset_of_extends (base.extended _ (by simp))⟩

/-- Where both groupings of a merge of three are defined, they are the same. No list of the final
shape is cut on either way, because the shapes on the way extend it. -/
theorem merge_assoc (hab : a.merge b = .ok ab) (hleft : ab.merge c = .ok left)
    (hbc : b.merge c = .ok bc) (hright : a.merge bc = .ok right) : left = right := by
  have shape : left.shape = right.shape := by
    have baseLeft : left.shape.IsBase ([a.shape, b.shape] ++ [c.shape]) :=
      (isBase_of_merge hab).append (Shape.isBase_singleton _) (isBase_of_merge hleft)
    have baseRight : right.shape.IsBase ([a.shape] ++ [b.shape, c.shape]) :=
      (Shape.isBase_singleton _).append (isBase_of_merge hbc) (isBase_of_merge hright)
    exact baseLeft.unique baseRight
  have action : left.action = right.action := by
    rw [(merge_eq_ok hleft).2.1, (merge_eq_ok hab).2.1, (merge_eq_ok hright).2.1,
      (merge_eq_ok hbc).2.1, Action.max_assoc]
  refine eq_of_fragments shape action fun list => ?_
  by_cases listed : list ∈ left.shape.lists
  · have listed' : list ∈ right.shape.lists := shape ▸ listed
    rw [fragments_of_merge hleft listed,
      fragments_of_merge hab ((lists_subset_of_merge hleft).1 listed),
      fragments_of_merge hright listed',
      fragments_of_merge hbc ((lists_subset_of_merge hright).2 listed'), List.append_assoc]
  · rw [fragments_of_notMem listed, fragments_of_notMem (shape ▸ listed)]

theorem fragments_empty (shape : Shape) (list : String) : (empty shape).fragments list = [] := by
  rw [empty, fragments_tabulate]
  split <;> rfl

theorem empty_merge (c : Contribution) : (empty c.shape).merge c = .ok c := by
  obtain ⟨merged, merges, shape, action, lists⟩ :=
    merge_of_shape_eq (c := empty c.shape) (d := c) rfl
  have same : merged = c := eq_of_fragments shape action fun list => by
    rw [lists, fragments_empty, List.nil_append]
  rw [merges, same]

theorem merge_empty (c : Contribution) : c.merge (empty c.shape) = .ok c := by
  obtain ⟨merged, merges, shape, action, lists⟩ :=
    merge_of_shape_eq (c := c) (d := empty c.shape) rfl
  have same : merged = c := eq_of_fragments shape (action.trans (Action.max_keep _)) fun list => by
    rw [lists, fragments_empty, List.append_nil]
  rw [merges, same]

/-- A merge of contributions of one shape has no fragments exactly when neither of them has any. -/
theorem isEmpty_of_merge (same : b.shape = a.shape) (h : a.merge b = .ok merged) :
    merged.isEmpty = true ↔ a.isEmpty = true ∧ b.isEmpty = true := by
  obtain ⟨_, merges, -, -, lists⟩ := merge_of_shape_eq same
  cases h.symm.trans merges
  simp only [isEmpty_iff, lists, List.append_eq_nil_iff, forall_and]

end Merge

/-- The laws of merging. It is defined for two contributions in either order or in none, namely when
one shape extends the other, and in both orders the result has the more basic shape. Where both
groupings of a merge of three are defined they are equal. A request to skip is never lost.

For contributions of one shape merging is always defined and associative, the contribution without
fragments is a unit on both sides, and a merge without fragments comes from contributions without
fragments. -/
theorem merge_laws (a b c : Contribution) :
    ((∃ ab, a.merge b = .ok ab) ↔ ∃ ba, b.merge a = .ok ba) ∧
    ((∃ ab, a.merge b = .ok ab) ↔ a.shape.Extends b.shape ∨ b.shape.Extends a.shape) ∧
    (∀ ab ba, a.merge b = .ok ab → b.merge a = .ok ba →
      ab.shape.IsBase [a.shape, b.shape] ∧ ba.shape = ab.shape) ∧
    (∀ left right, (a.merge b >>= fun ab => ab.merge c) = .ok left →
      (b.merge c >>= fun bc => a.merge bc) = .ok right → left = right) ∧
    (∀ ab, a.merge b = .ok ab → (ab.action = .skip ↔ a.action = .skip ∨ b.action = .skip)) ∧
    (b.shape = a.shape → c.shape = a.shape →
      (∃ ab bc abc, a.merge b = .ok ab ∧ b.merge c = .ok bc ∧ ab.merge c = .ok abc ∧
        a.merge bc = .ok abc ∧ ab.shape = a.shape ∧ abc.shape = a.shape ∧
        (ab.isEmpty = true → a.isEmpty = true ∧ b.isEmpty = true)) ∧
      (empty a.shape).merge a = .ok a ∧ a.merge (empty a.shape) = .ok a ∧
      (empty a.shape).isEmpty = true ∧ (empty a.shape).action = .keep) := by
  refine ⟨?_, exists_merge_iff, fun ab ba hab hba => ?_, fun left right hleft hright => ?_,
    fun ab hab => ?_, fun same same' => ⟨?_, a.empty_merge, a.merge_empty, ?_, rfl⟩⟩
  · rw [exists_merge_iff, exists_merge_iff]
    exact ⟨.symm, .symm⟩
  · have common := (merge_eq_ok hba).1
    rw [Shape.common?_comm, (merge_eq_ok hab).1] at common
    exact ⟨isBase_of_merge hab, (Option.some.inj common).symm⟩
  · cases hab : a.merge b with
    | error reason => rw [hab] at hleft; cases hleft
    | ok ab =>
      cases hbc : b.merge c with
      | error reason => rw [hbc] at hright; cases hright
      | ok bc =>
        rw [hab] at hleft
        rw [hbc] at hright
        exact merge_assoc hab hleft hbc hright
  · rw [(merge_eq_ok hab).2.1, Action.max_eq_skip_iff]
  · obtain ⟨ab, hab, shape, -⟩ := merge_of_shape_eq same
    obtain ⟨bc, hbc, shape', -⟩ := merge_of_shape_eq (same'.trans same.symm)
    obtain ⟨left, hleft, shape'', -⟩ := merge_of_shape_eq (same'.trans shape.symm)
    obtain ⟨right, hright, -⟩ := merge_of_shape_eq (shape'.trans same)
    have grouped : left = right := merge_assoc hab hleft hbc hright
    exact ⟨ab, bc, left, hab, hbc, hleft, grouped ▸ hright, shape, shape''.trans shape,
      (isEmpty_of_merge same hab).mp⟩
  · exact isEmpty_iff.mpr (fragments_empty _)

/-- The shape of Rust fields with a list of notes. -/
def notedField : Shape := Shape.rustField.extend ⟨"NotedFieldContribution", ["notes"], []⟩

/-- The shape of Rust fields with lists of notes and of origins. -/
def tracedField : Shape := notedField.extend ⟨"TracedFieldContribution", ["origins"], []⟩

/-- The contribution with the same fragment in every list of its shape. -/
def filled (shape : Shape) (action : Action) (fragment : String) : Contribution :=
  tabulate shape action fun _ => [fragment]

/-- Three shapes on one path, merged from the most specific one to the most basic one, which asks to
skip. Grouped the other way, the two more basic ones come first. -/
theorem merge_laws_field :
    let a := filled tracedField .keep "a"
    let b := filled notedField .keep "b"
    let c := filled .rustField .skip "c"
    ∃ left right, (a.merge b >>= fun ab => ab.merge c) = .ok left ∧
      (b.merge c >>= fun bc => a.merge bc) = .ok right ∧ left = right ∧
      left.shape = .rustField ∧ left.fragments "attributes" = ["a", "b", "c"] ∧
      (∃ cb, c.merge b = .ok cb) ∧ (empty a.shape).merge a = .ok a := by
  intro a b c
  obtain ⟨left, hleft, shape, lists⟩ : ∃ left, (a.merge b >>= fun ab => ab.merge c) = .ok left ∧
      left.shape = .rustField ∧ left.fragments "attributes" = ["a", "b", "c"] :=
    ⟨_, rfl, rfl, by decide⟩
  obtain ⟨right, hright⟩ : ∃ right, (b.merge c >>= fun bc => a.merge bc) = .ok right := ⟨_, rfl⟩
  obtain ⟨-, -, -, grouped, -⟩ := merge_laws a b c
  obtain ⟨swapped, -⟩ := merge_laws b c a
  obtain ⟨-, -, -, -, -, alike⟩ := merge_laws a a a
  exact ⟨left, right, hleft, hright, grouped left right hleft hright, shape, lists,
    swapped.mp ⟨_, rfl⟩, (alike rfl rfl).2.1⟩

/-- One grouping alone may be defined: two shapes that do not extend each other, both merged into
the shape that they extend. -/
example :
    let other := Shape.rustField.extend ⟨"OtherFieldContribution", [], []⟩
    let base := filled .rustField .keep "a"
    (∃ both, (base.merge (filled notedField .keep "b") >>= fun ab =>
      ab.merge (filled other .keep "c")) = .ok both) ∧
    (filled notedField .keep "b").merge (filled other .keep "c") =
      .error ⟨"OtherFieldContribution", "NotedFieldContribution"⟩ :=
  ⟨⟨_, rfl⟩, by decide⟩

end Contribution

end SchemaWeaver
