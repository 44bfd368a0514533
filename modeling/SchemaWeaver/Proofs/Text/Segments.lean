import Mathlib.Data.List.Forall2
import SchemaWeaver.Proofs.Text.Trimming
import SchemaWeaver.Text.Segments

/-!
# What texts list

A text is cut at its commas into parts; the items that it lists are the parts that are not blank,
without the blank characters at their ends. `lists_iff` says that the segments of texts are exactly
these items, and `segments_commaJoined` that it does not matter whether texts are joined first.
Items that are joined are listed again as they were.
-/

namespace SchemaWeaver.Text

/-- The parts of a text between its commas: no part has a comma, and joined by commas they are the
text. -/
structure CommaSplits (s : String) (parts : List String) : Prop where
  ne_nil : parts ≠ []
  comma_notMem : ∀ part ∈ parts, ',' ∉ part.toList
  joined : ",".intercalate parts = s

/-- The items that texts list, in order: of the parts between commas those that are not blank, each
without the blank characters at its ends. -/
def Lists (values items : List String) : Prop :=
  ∃ parts : List (List String), List.Forall₂ CommaSplits values parts ∧
    List.Forall₂ Trims (parts.flatten.filter fun part => !isBlankText part) items

/-- A text that lists itself: it is not blank, has no blank characters at its ends and no comma. -/
structure IsItem (s : String) : Prop where
  not_blank : isBlankText s = false
  tight : IsTight s
  comma_notMem : ',' ∉ s.toList

section Parts

variable {s t : String}

theorem stretches_eq_splitOn (separator : Char) (s : List Char) :
    stretches separator s = s.splitOn separator := by
  induction s with
  | nil => rw [stretches, List.splitOn_nil]
  | cons c rest ih =>
    rw [stretches, List.splitOn_cons_eq_if_modifyHead, ← ih]
    by_cases h : c = separator
    · rw [if_pos h, if_pos (beq_iff_eq.mpr h)]
    · rw [if_neg h, if_neg (mt beq_iff_eq.mp h)]
      cases split : stretches separator rest with
      | nil => exact absurd split (stretches_ne_nil separator rest)
      | cons first others => rfl

theorem separator_notMem_of_mem_stretches {separator : Char} {s part : List Char}
    (h : part ∈ stretches separator s) : separator ∉ part := by
  induction s generalizing part with
  | nil =>
    rw [stretches, List.mem_singleton] at h
    exact h ▸ List.not_mem_nil
  | cons c rest ih =>
    rw [stretches] at h
    split at h
    · rcases List.mem_cons.mp h with rfl | later
      · exact List.not_mem_nil
      · exact ih later
    · rename_i other
      split at h
      · rw [List.mem_singleton] at h
        exact h ▸ fun member => other (List.mem_singleton.mp member).symm
      · rename_i first others split
        rw [split] at ih
        rcases List.mem_cons.mp h with rfl | later
        · intro member
          rcases List.mem_cons.mp member with same | inner
          · exact other same.symm
          · exact ih List.mem_cons_self inner
        · exact ih (List.mem_cons_of_mem _ later)

/-- The parts of a text between its commas. -/
def commaParts (s : String) : List String := (stretches ',' s.toList).map String.ofList

theorem map_toList_commaParts (s : String) :
    (commaParts s).map String.toList = stretches ',' s.toList := by
  simp [commaParts, Function.comp_def]

theorem commaSplits_commaParts (s : String) : CommaSplits s (commaParts s) where
  ne_nil := by simpa [commaParts] using stretches_ne_nil ',' s.toList
  comma_notMem part member := by
    obtain ⟨stretch, present, rfl⟩ := List.mem_map.mp member
    rw [String.toList_ofList]
    exact separator_notMem_of_mem_stretches present
  joined := by
    rw [← String.toList_inj, String.toList_intercalate, map_toList_commaParts,
      stretches_eq_splitOn]
    exact List.intercalate_splitOn ','

/-- There is one way to cut a text at its commas. -/
theorem commaSplits_iff {parts : List String} : CommaSplits s parts ↔ commaParts s = parts := by
  refine ⟨fun ⟨ne_nil, comma_notMem, joined⟩ => ?_, fun h => h ▸ commaSplits_commaParts s⟩
  have chars : s.toList = [','].intercalate (parts.map String.toList) := by
    rw [← joined]
    exact String.toList_intercalate
  have noComma : ∀ part ∈ parts.map String.toList, ',' ∉ part := by
    simpa using comma_notMem
  rw [commaParts, stretches_eq_splitOn, chars,
    List.splitOn_intercalate ',' noComma (mt List.map_eq_nil_iff.mp ne_nil), List.map_map]
  simp [Function.comp_def]

/-- The segments are the parts that are not blank, trimmed. -/
theorem segments_eq (s : String) :
    segments s = ((commaParts s).filter fun part => !isBlankText part).map trim := by
  have trimmed_eq : (stretches ',' s.toList).map (fun stretch => String.ofList (trimmed stretch)) =
      (commaParts s).map trim := by
    simp [commaParts, trim, Function.comp_def]
  rw [segments, trimmed_eq, List.filter_map]
  refine congrArg (List.map trim) (List.filter_congr fun part _ => ?_)
  rw [Function.comp_apply, decide_not, Bool.eq_iff_iff]
  simp [trim_eq_empty_iff]

end Parts

theorem forall₂_iff_map {α β : Type} {f : α → β} {R : α → β → Prop}
    (functional : ∀ a b, R a b ↔ f a = b) {xs : List α} {ys : List β} :
    List.Forall₂ R xs ys ↔ xs.map f = ys := by
  obtain rfl : R = fun a b => f a = b := funext fun a => funext fun b => propext (functional a b)
  rw [← List.forall₂_map_left_iff, List.forall₂_eq_eq_eq]

/-- The segments of texts are what they list. -/
theorem lists_iff {values items : List String} :
    Lists values items ↔ values.flatMap segments = items := by
  have parts_iff (parts : List (List String)) :
      List.Forall₂ CommaSplits values parts ↔ values.map commaParts = parts :=
    forall₂_iff_map (f := commaParts) fun _ _ => commaSplits_iff
  have items_iff (parts : List String) : List.Forall₂ Trims parts items ↔ parts.map trim = items :=
    forall₂_iff_map (f := trim) fun _ _ => trims_iff
  -- Both relations are functions, so the lists of parts and of items are told by their values.
  rw [funext segments_eq]
  simp only [Lists, parts_iff, items_iff, exists_eq_left', List.filter_flatten, List.map_flatten,
    List.map_map, List.flatMap, Function.comp_def]

section Items

variable {s t : String}

theorem isItem_of_mem_segments (h : s ∈ segments t) : IsItem s := by
  rw [segments_eq, List.mem_map] at h
  obtain ⟨part, member, rfl⟩ := h
  obtain ⟨present, visible⟩ := List.mem_filter.mp member
  obtain ⟨tight, front, back, -, -, split⟩ := trims_trim part
  refine ⟨?_, tight, ?_⟩
  · rw [Bool.eq_false_iff, Ne, ← trim_eq_empty_iff, trim_trim, trim_eq_empty_iff]
    simpa using visible
  · have noComma := (commaSplits_commaParts t).comma_notMem part present
    rw [split, String.toList_append, String.toList_append] at noComma
    exact fun inner => noComma (List.mem_append_left _ (List.mem_append_right _ inner))

theorem IsItem.segments_eq (h : IsItem s) : segments s = [s] := by
  have single : commaParts s = [s] := commaSplits_iff.mp
    ⟨List.cons_ne_nil _ _, by simpa using h.comma_notMem, String.intercalate_singleton⟩
  rw [Text.segments_eq, single, List.filter_cons_of_pos (by simp [h.not_blank]), List.filter_nil,
    List.map_singleton, trim_eq_self_iff.mpr h.tight]

/-- A comma ends a segment. -/
theorem segments_append_comma (s t : String) :
    segments (s ++ "," ++ t) = segments s ++ segments t := by
  have cut : stretches ',' (s ++ "," ++ t).toList =
      stretches ',' s.toList ++ stretches ',' t.toList := by
    have chars : (s ++ "," ++ t).toList = s.toList ++ ',' :: t.toList := by simp
    rw [chars, stretches_eq_splitOn, stretches_eq_splitOn, stretches_eq_splitOn,
      List.splitOn_append_cons_self]
  rw [segments, cut, List.map_append, List.filter_append, segments, segments]

/-- A space in front of a text does not matter. -/
theorem segments_space (t : String) : segments (" " ++ t) = segments t := by
  have chars : (" " ++ t).toList = ' ' :: t.toList := by simp
  obtain ⟨first, others, split⟩ := List.exists_cons_of_ne_nil (stretches_ne_nil ',' t.toList)
  have blank : ∀ c ∈ [' '], isBlank c = true := List.forall_mem_singleton.mpr rfl
  have trimmed_eq : trimmed (' ' :: first) = trimmed first := trimmed_append_of_blank blank
  rw [segments, segments, chars, stretches, if_neg (by decide), split]
  dsimp only
  rw [List.map_cons, trimmed_eq, List.map_cons]

/-- Joining texts first does not change what they list. -/
theorem segments_commaJoined (values : List String) :
    segments (commaJoined values) = values.flatMap segments := by
  induction values with
  | nil => rfl
  | cons value others ih =>
    cases others with
    | nil => rw [commaJoined_singleton, List.flatMap_singleton]
    | cons next others =>
      have joined : commaJoined (value :: next :: others) =
          value ++ "," ++ (" " ++ commaJoined (next :: others)) := by
        rw [← String.toList_inj, commaJoined_cons_cons]
        simp
      rw [joined, segments_append_comma, segments_space, ih]
      exact List.flatMap_cons.symm

theorem flatMap_segments_of_items {items : List String} (h : ∀ item ∈ items, IsItem item) :
    items.flatMap segments = items := by
  induction items with
  | nil => rfl
  | cons item others ih =>
    obtain ⟨first, others_items⟩ := List.forall_mem_cons.mp h
    rw [List.flatMap_cons, first.segments_eq, ih others_items, List.singleton_append]

/-- Items can be told apart in the joined text. -/
theorem commaJoined_injective {items items' : List String} (h : ∀ item ∈ items, IsItem item)
    (h' : ∀ item ∈ items', IsItem item) (joined : commaJoined items = commaJoined items') :
    items = items' := by
  rw [← flatMap_segments_of_items h, ← segments_commaJoined, joined, segments_commaJoined,
    flatMap_segments_of_items h']

end Items

end SchemaWeaver.Text
