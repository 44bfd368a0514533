import Mathlib.Data.List.DropRight
import SchemaWeaver.Text.Blank

/-!
# Trimming

Trimming takes away the blank characters at the ends of a text and nothing else: `trims_iff` says
that a text consists of blank characters, its trimmed text, and blank characters again, and that
this tells the trimmed text, which has no blank character at its ends.
-/

namespace SchemaWeaver.Text

/-- A text with no blank character at either end. -/
def IsTight (s : String) : Prop :=
  (∀ c ∈ s.toList.head?, isBlank c = false) ∧ ∀ c ∈ s.toList.getLast?, isBlank c = false

/-- What is left of a text when the blank characters at its ends are taken away. -/
structure Trims (s t : String) : Prop where
  tight : IsTight t
  ends : ∃ front back, isBlankText front = true ∧ isBlankText back = true ∧ s = front ++ t ++ back

section Ends

variable {p : Char → Bool} {s front back : List Char}

/-- Characters with no end to be dropped are left of what stands between ends that are. -/
theorem rdropWhile_dropWhile_between (front_all : ∀ c ∈ front, p c = true)
    (back_all : ∀ c ∈ back, p c = true) (first : ∀ c ∈ s.head?, p c = false)
    (last : ∀ c ∈ s.getLast?, p c = false) :
    ((front ++ s ++ back).dropWhile p).rdropWhile p = s := by
  have back_all' : ∀ c ∈ back.reverse, p c = true := fun c member =>
    back_all c (List.mem_reverse.mp member)
  have ends : (s ++ back).rdropWhile p = s.rdropWhile p := by
    rw [List.rdropWhile, List.reverse_append, List.dropWhile_append_of_pos back_all',
      List.rdropWhile]
  rw [List.append_assoc, List.dropWhile_append_of_pos front_all]
  cases s with
  | nil =>
    rw [List.nil_append, List.dropWhile_eq_nil_iff.mpr back_all]
    rfl
  | cons c rest =>
    have kept : ¬ p c = true := by simp [first c rfl]
    rw [List.cons_append, List.dropWhile_cons_of_neg kept, ← List.cons_append, ends,
      List.rdropWhile_eq_self_iff]
    intro nonempty dropped
    rw [last _ (List.getLast?_eq_some_getLast nonempty)] at dropped
    cases dropped

/-- Nothing but ends that have the property is lost. -/
theorem exists_eq_append_rdropWhile (p : Char → Bool) (s : List Char) :
    ∃ front back, (∀ c ∈ front, p c = true) ∧ (∀ c ∈ back, p c = true) ∧
      s = front ++ (s.dropWhile p).rdropWhile p ++ back := by
  refine ⟨s.takeWhile p, (s.dropWhile p).rtakeWhile p,
    List.all_eq_true.mp List.all_takeWhile, fun c => List.mem_rtakeWhile_imp, ?_⟩
  rw [List.append_assoc, List.rdropWhile_append_rtakeWhile, List.takeWhile_append_dropWhile]

end Ends

section Lists

variable {s front back : List Char}

theorem trimmed_eq_rdropWhile (s : List Char) :
    trimmed s = (s.dropWhile isBlank).rdropWhile isBlank := rfl

/-- Blank characters in front do not matter. -/
theorem trimmed_append_of_blank (blank : ∀ c ∈ front, isBlank c = true) :
    trimmed (front ++ s) = trimmed s := by
  rw [trimmed, List.dropWhile_append_of_pos blank, trimmed]

theorem not_isBlank_of_head?_trimmed {c : Char} (h : c ∈ (trimmed s).head?) :
    isBlank c = false := by
  -- What the end loses leaves the first character as it is.
  obtain ⟨lost, split⟩ := List.rdropWhile_prefix isBlank (s.dropWhile isBlank)
  have first : (s.dropWhile isBlank).head? = some c := by
    rw [← split, List.head?_append, ← trimmed_eq_rdropWhile, Option.mem_def.mp h, Option.some_or]
  simpa [first] using List.head?_dropWhile_not isBlank s

theorem not_isBlank_of_getLast?_trimmed {c : Char} (h : c ∈ (trimmed s).getLast?) :
    isBlank c = false := by
  obtain ⟨nonempty, rfl⟩ := List.mem_getLast?_eq_getLast h
  exact Bool.eq_false_iff.mpr (List.rdropWhile_last_not isBlank (s.dropWhile isBlank) nonempty)

end Lists

variable {s t : String}

theorem toList_trim (s : String) : (trim s).toList = trimmed s.toList := String.toList_ofList

theorem tight_trim (s : String) : IsTight (trim s) := by
  rw [IsTight, toList_trim]
  exact ⟨fun c => not_isBlank_of_head?_trimmed, fun c => not_isBlank_of_getLast?_trimmed⟩

theorem trims_trim (s : String) : Trims s (trim s) where
  tight := tight_trim s
  ends := by
    obtain ⟨front, back, front_blank, back_blank, split⟩ :=
      exists_eq_append_rdropWhile isBlank s.toList
    refine ⟨String.ofList front, String.ofList back, ?_, ?_, ?_⟩
    · simpa [isBlankText] using front_blank
    · simpa [isBlankText] using back_blank
    · rw [← String.toList_inj]
      simpa [toList_trim, trimmed_eq_rdropWhile] using split

/-- What a text comes down to is the trimmed text. -/
theorem trims_iff : Trims s t ↔ trim s = t := by
  refine ⟨fun ⟨tight, front, back, front_blank, back_blank, split⟩ => ?_, fun h => h ▸ trims_trim s⟩
  rw [← String.toList_inj, toList_trim, split, String.toList_append, String.toList_append]
  exact rdropWhile_dropWhile_between (List.all_eq_true.mp front_blank)
    (List.all_eq_true.mp back_blank) tight.1 tight.2

theorem trim_eq_self_iff : trim s = s ↔ IsTight s := by
  refine ⟨fun h => h ▸ tight_trim s, fun tight => trims_iff.mp ⟨tight, "", "", rfl, rfl, ?_⟩⟩
  rw [String.empty_append, String.append_empty]

@[simp] theorem trim_trim (s : String) : trim (trim s) = trim s :=
  trim_eq_self_iff.mpr (tight_trim s)

end SchemaWeaver.Text
