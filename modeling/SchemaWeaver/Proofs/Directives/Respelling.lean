import Mathlib.Logic.Relation
import SchemaWeaver.Proofs.Directives.Targets
import SchemaWeaver.Proofs.OrderedMap
import SchemaWeaver.Proofs.Visitor.Payloads

/-!
# Other ways to write the same options

Options can be written in several ways: the keys of a map may stand in another order, and a map may
be cut into several ones of the same target, one behind the other, each with some of the keys. Such
annotation lists address the same targets in the same order, and tell every target the same texts
and the same option under every key. In which order the keys of the folded map stand may differ.

That two annotation lists say the same is kept when more directives are put before or behind them.
So a change inside a list is looked at where it happens only.
-/

namespace SchemaWeaver

namespace OrderedMap

variable {α : Type}

theorem foldl_insertAll (m : OrderedMap α) (maps : List (OrderedMap α)) :
    maps.foldl (fun combined upper => combined.insertAll upper.entries) m =
      m.insertAll (maps.flatMap entries) := by
  induction maps generalizing m with
  | nil => rfl
  | cons upper maps ih =>
    rw [List.foldl_cons, ih, List.flatMap_cons, insertAll, insertAll, insertAll, List.foldl_append]

/-- Maps whose entries are the same up to their order hold the same. -/
theorem find?_eq_of_perm {m m' : OrderedMap α} (h : m.entries.Perm m'.entries) (key : String) :
    m'.find? key = m.find? key := by
  refine Option.ext fun value => ?_
  rw [find?_eq_some_iff, find?_eq_some_iff, h.mem_iff]

end OrderedMap

/-- The directive with an option map for its payload. -/
def Directive.carrying (d : Directive) (m : OrderedMap String) : Directive :=
  { d with payload := .options m }

namespace Directives

theorem combinedMapFor_eq (directives : List Directive) (target : String) :
    combinedMapFor directives target =
      .ofList ((mapsFor directives target).flatMap OrderedMap.entries) :=
  OrderedMap.foldl_insertAll ∅ _

/-- What later directives set wins over what earlier ones set. -/
theorem find?_combinedMapFor_append (xs ys : List Directive) (target key : String) :
    (combinedMapFor (xs ++ ys) target).find? key =
      ((combinedMapFor ys target).find? key).or ((combinedMapFor xs target).find? key) := by
  have behind : combinedMapFor (xs ++ ys) target =
      (combinedMapFor xs target).insertAll ((mapsFor ys target).flatMap OrderedMap.entries) := by
    rw [combinedMapFor, mapsFor_append, List.foldl_append, OrderedMap.foldl_insertAll]
    rfl
  have alone : (OrderedMap.empty : OrderedMap String).find? key = none := rfl
  rw [behind, combinedMapFor_eq ys, OrderedMap.ofList, OrderedMap.find?_insertAll,
    OrderedMap.find?_insertAll, alone, Option.or_none]

section Carrying

variable (d : Directive) (maps : List (OrderedMap String)) (target : String)

theorem textsFor_carrying : textsFor (maps.map d.carrying) target = [] := by
  refine List.filterMap_eq_nil_iff.mpr fun payload addressed => ?_
  obtain ⟨directive, member, rfl⟩ := List.mem_map.mp addressed
  obtain ⟨m, -, rfl⟩ := List.mem_map.mp (List.mem_filter.mp member).1
  rfl

theorem mapsFor_carrying :
    mapsFor (maps.map d.carrying) target = if d.target = target then maps else [] := by
  induction maps with
  | nil => simp [mapsFor, payloadsFor]
  | cons m maps ih =>
    have first : mapsFor [d.carrying m] target = if d.target = target then [m] else [] := by
      by_cases h : d.target = target <;> simp [mapsFor, payloadsFor, Directive.carrying, h]
    rw [List.map_cons, ← List.singleton_append, mapsFor_append, first, ih]
    split <;> rfl

theorem combinedMapFor_carrying : combinedMapFor (maps.map d.carrying) target =
    if d.target = target then .ofList (maps.flatMap OrderedMap.entries) else ∅ := by
  rw [combinedMapFor_eq, mapsFor_carrying]
  split <;> rfl

variable {maps}

/-- Directives that differ in what they carry address one target. -/
theorem targets_carrying (nonempty : maps ≠ []) : targets (maps.map d.carrying) = [d.target] := by
  obtain ⟨m, others, rfl⟩ := List.exists_cons_of_ne_nil nonempty
  rw [List.map_cons, targets, List.map_cons, distinct]
  congr 1
  refine List.filter_eq_nil_iff.mpr fun other member => ?_
  rw [mem_distinct, List.map_map] at member
  obtain ⟨m', -, rfl⟩ := List.mem_map.mp member
  simp [Directive.carrying]

end Carrying

/-- Annotation lists that address the same targets and tell them the same texts, and the same option
under every key. -/
structure SaySame (directives directives' : List Directive) : Prop where
  targets_eq : targets directives' = targets directives
  texts_eq : ∀ target, textsFor directives' target = textsFor directives target
  options_eq : ∀ target key,
    (combinedMapFor directives' target).find? key = (combinedMapFor directives target).find? key

namespace SaySame

variable {xs ys zs xs' ys' : List Directive}

theorem refl (xs : List Directive) : SaySame xs xs := ⟨rfl, fun _ => rfl, fun _ _ => rfl⟩

theorem symm (h : SaySame xs ys) : SaySame ys xs where
  targets_eq := h.targets_eq.symm
  texts_eq target := (h.texts_eq target).symm
  options_eq target key := (h.options_eq target key).symm

theorem trans (h : SaySame xs ys) (h' : SaySame ys zs) : SaySame xs zs where
  targets_eq := h'.targets_eq.trans h.targets_eq
  texts_eq target := (h'.texts_eq target).trans (h.texts_eq target)
  options_eq target key := (h'.options_eq target key).trans (h.options_eq target key)

theorem append (h : SaySame xs xs') (h' : SaySame ys ys') : SaySame (xs ++ ys) (xs' ++ ys') where
  targets_eq := by rw [targets_append, targets_append, h.targets_eq, h'.targets_eq]
  texts_eq target := by rw [textsFor_append, textsFor_append, h.texts_eq, h'.texts_eq]
  options_eq target key := by
    rw [find?_combinedMapFor_append, find?_combinedMapFor_append, h.options_eq, h'.options_eq]

theorem inside (h : SaySame ys ys') (before after : List Directive) :
    SaySame (before ++ ys ++ after) (before ++ ys' ++ after) :=
  ((refl before).append h).append (refl after)

/-- Directives for one target that carry the same options, in another order or cut in another
way. -/
theorem carrying (d : Directive) {maps maps' : List (OrderedMap String)} (nonempty : maps ≠ [])
    (nonempty' : maps' ≠ []) (same : ∀ key,
      (OrderedMap.ofList (maps'.flatMap OrderedMap.entries)).find? key =
        (OrderedMap.ofList (maps.flatMap OrderedMap.entries)).find? key) :
    SaySame (maps.map d.carrying) (maps'.map d.carrying) where
  targets_eq := by rw [targets_carrying d nonempty, targets_carrying d nonempty']
  texts_eq target := by rw [textsFor_carrying, textsFor_carrying]
  options_eq target key := by
    rw [combinedMapFor_carrying, combinedMapFor_carrying]
    split
    · exact same key
    · rfl

/-- What is said to a target cannot be told apart by hooks that read texts and options. -/
theorem payloadFor (h : SaySame xs ys) (target : String) :
    (Directives.payloadFor xs target).SameText (Directives.payloadFor ys target) where
  notes_eq := congrArg (List.filter _) (h.texts_eq target)
  get?_eq := h.options_eq target
  trim_text_eq := congrArg (fun values => Text.trim (Text.commaJoined values)) (h.texts_eq target)

end SaySame

/-- One change in how options are written: the keys of a map are put into another order, or a map is
cut into maps of the same target that have its entries among them. -/
inductive Respells : List Directive → List Directive → Prop
  | permute (before after : List Directive) (d : Directive) {m m' : OrderedMap String}
      (reordered : m.entries.Perm m'.entries) :
      Respells (before ++ [d.carrying m] ++ after) (before ++ [d.carrying m'] ++ after)
  | split (before after : List Directive) (d : Directive) {m : OrderedMap String}
      {maps : List (OrderedMap String)} (nonempty : maps ≠ [])
      (cut : m.entries = maps.flatMap OrderedMap.entries) :
      Respells (before ++ [d.carrying m] ++ after) (before ++ maps.map d.carrying ++ after)

/-- Annotation lists that differ in how options are written, by any number of changes. Joining maps
is a cut taken back. -/
abbrev Respelled : List Directive → List Directive → Prop := Relation.EqvGen Respells

theorem Respells.saySame {xs ys : List Directive} (h : Respells xs ys) : SaySame xs ys := by
  cases h with
  | permute before after d reordered =>
    rename_i m m'
    refine .inside (.carrying d (List.cons_ne_nil m []) (List.cons_ne_nil m' []) fun key => ?_) _ _
    rw [List.flatMap_singleton, List.flatMap_singleton, OrderedMap.ofList_entries,
      OrderedMap.ofList_entries]
    exact OrderedMap.find?_eq_of_perm reordered key
  | split before after d nonempty cut =>
    rename_i m maps
    refine .inside (.carrying d (List.cons_ne_nil m []) nonempty fun key => ?_) _ _
    rw [List.flatMap_singleton, cut]

/-- However options are written, they say the same. -/
theorem Respelled.saySame {xs ys : List Directive} (h : Respelled xs ys) : SaySame xs ys := by
  induction h with
  | rel xs ys changed => exact changed.saySame
  | refl xs => exact SaySame.refl xs
  | symm xs ys _ ih => exact ih.symm
  | trans xs ys zs _ _ first second => exact first.trans second

end Directives

end SchemaWeaver
