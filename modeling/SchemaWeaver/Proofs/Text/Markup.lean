import Mathlib.Data.List.TakeWhile
import SchemaWeaver.Text.Markup

/-!
# Reading escaped text as markup

The tags that a console reads in a markup text: a bracket that opens a tag is one unless an odd
number of backslashes stands before it. An escaped text has no tags, whatever the text says and
whatever markup is put around it, as long as the markup that follows does not read on from it.
-/

namespace SchemaWeaver.Text.Markup

/-- The tags of a markup text, where `run` backslashes stand just before it. -/
def tagsAfter (run : Nat) : List Char → List String
  | [] => []
  | '\\' :: rest => tagsAfter (run + 1) rest
  | c :: rest =>
    if c = '[' && opensTag rest && run % 2 == 0 then
      String.ofList (rest.takeWhile (· != ']')) :: tagsAfter 0 rest
    else tagsAfter 0 rest

/-- The tags of a markup text, without their brackets. -/
def tags (s : String) : List String := tagsAfter 0 s.toList

/-- The first bracket of a text. -/
def firstBracket (s : List Char) : Option Char := (s.dropWhile fun d => d != '[' && d != ']').head?

section Brackets

variable {c : Char} {s tail : List Char}

theorem opensTag_cons (c : Char) (s : List Char) :
    opensTag (c :: s) = (startsTag c && firstBracket s == some ']') := rfl

theorem firstBracket_cons (c : Char) (s : List Char) :
    firstBracket (c :: s) = if c = '[' ∨ c = ']' then some c else firstBracket s := by
  by_cases bracket : c = '[' ∨ c = ']'
  · rcases bracket with rfl | rfl <;> rfl
  · obtain ⟨opening, closing⟩ := not_or.mp bracket
    simp [firstBracket, opening, closing]

theorem firstBracket_append (s tail : List Char) :
    firstBracket (s ++ tail) = (firstBracket s).or (firstBracket tail) := by
  induction s with
  | nil => rfl
  | cons c s ih =>
    rw [List.cons_append, firstBracket_cons, firstBracket_cons, ih]
    split <;> rfl

theorem firstBracket_backslashes (n : Nat) (s : List Char) :
    firstBracket (List.replicate n '\\' ++ s) = firstBracket s := by
  induction n with
  | zero => rfl
  | succ n ih =>
    rw [List.replicate_succ, List.cons_append, firstBracket_cons, ih, if_neg (by decide)]

/-- Escaping puts backslashes before brackets only, so that the same bracket comes first. -/
theorem firstBracket_escapeTags (run : Nat) (s : List Char) :
    firstBracket (escapeTags run s) = firstBracket s := by
  fun_induction escapeTags run s with
  | case1 run => rfl
  | case2 run rest ih => rw [firstBracket_cons, firstBracket_cons, ih]
  | case3 run c rest plain opens ih =>
    rw [firstBracket_backslashes, firstBracket_cons, firstBracket_cons, ih]
  | case4 run c rest plain opens ih => rw [firstBracket_cons, firstBracket_cons, ih]

/-- Escaping opens no tag and takes none away, as brackets and backslashes do not start tags. -/
theorem opensTag_escapeTags (run : Nat) (s : List Char) :
    opensTag (escapeTags run s) = opensTag s := by
  fun_cases escapeTags run s with
  | case1 => rfl
  | case2 rest => rw [opensTag_cons, opensTag_cons, firstBracket_escapeTags]
  | case3 c rest plain opens =>
    have bracket : c = '[' := by simpa using (Bool.and_eq_true_iff.mp opens).1
    rw [bracket, List.replicate_succ, List.cons_append, opensTag_cons, opensTag_cons]
    rfl
  | case4 c rest plain opens => rw [opensTag_cons, opensTag_cons, firstBracket_escapeTags]

end Brackets

/-- A markup text that does not read on from what stands before it: it does not end a tag that was
begun there, and backslashes there do not matter to it. -/
structure Separate (tail : List Char) : Prop where
  opens : opensTag tail = false
  next : firstBracket tail ≠ some ']'
  run : ∀ run, tagsAfter run tail = tagsAfter 0 tail

section Append

variable {s tail : List Char}

theorem opensTag_append (separate : Separate tail) : opensTag (s ++ tail) = opensTag s := by
  cases s with
  | nil => exact separate.opens
  | cons c rest =>
    rw [List.cons_append, opensTag_cons, opensTag_cons, firstBracket_append]
    cases firstBracket rest with
    | none => rw [Option.none_or, beq_false_of_ne separate.next, beq_false_of_ne (by simp)]
    | some bracket => rfl

/-- A tag ends in the text in which it begins. -/
theorem takeWhile_append_of_opensTag (opens : opensTag s = true) :
    (s ++ tail).takeWhile (· != ']') = s.takeWhile (· != ']') := by
  cases s with
  | nil => cases opens
  | cons c rest =>
    have closes : firstBracket rest = some ']' :=
      eq_of_beq (Bool.and_eq_true_iff.mp ((opensTag_cons c rest).symm.trans opens)).2
    have inside : ']' ∈ c :: rest :=
      .tail c ((List.dropWhile_sublist _).mem (List.mem_of_mem_head? closes))
    rw [List.takeWhile_append, if_neg]
    intro same
    have all := (List.takeWhile_prefix (· != ']')).eq_of_length same
    rw [← all] at inside
    exact absurd (List.mem_takeWhile_imp inside) (by decide)

theorem tagsAfter_append (separate : Separate tail) (run : Nat) (s : List Char) :
    tagsAfter run (s ++ tail) = tagsAfter run s ++ tagsAfter 0 tail := by
  fun_induction tagsAfter run s with
  | case1 run => exact separate.run run
  | case2 run rest ih => rw [List.cons_append, tagsAfter, ih]
  | case3 run c rest plain opens ih =>
    obtain ⟨⟨bracket, opensRest⟩, even⟩ := (Bool.and_eq_true_iff.mp opens).imp_left
      Bool.and_eq_true_iff.mp
    rw [List.cons_append, tagsAfter, opensTag_append separate, if_pos opens,
      takeWhile_append_of_opensTag opensRest, ih, List.cons_append]
    exact plain
  | case4 run c rest plain opens ih =>
    rw [List.cons_append, tagsAfter, opensTag_append separate, if_neg opens, ih]
    exact plain

end Append

section Tags

theorem tagsAfter_backslashes (run n : Nat) (s : List Char) :
    tagsAfter run (List.replicate n '\\' ++ s) = tagsAfter (run + n) s := by
  induction n generalizing run with
  | zero => rfl
  | succ n ih =>
    rw [List.replicate_succ, List.cons_append, tagsAfter, ih, Nat.add_right_comm, Nat.add_assoc]

/-- An odd number of backslashes keeps a bracket from being a tag. -/
theorem tagsAfter_of_odd {run : Nat} {c : Char} {s : List Char} (odd : run % 2 = 1)
    (plain : c ≠ '\\') : tagsAfter run (c :: s) = tagsAfter 0 s := by
  rw [tagsAfter, odd]
  · simp
  · exact plain

/-- The backslashes before a bracket that opens a tag are doubled, and one more is put there. -/
theorem tagsAfter_escapeTags (run : Nat) (s : List Char) :
    tagsAfter run (escapeTags run s) = [] := by
  fun_induction escapeTags run s with
  | case1 run => rfl
  | case2 run rest ih => rw [tagsAfter, ih]
  | case3 run c rest plain opens ih =>
    have odd : (run + (run + 1)) % 2 = 1 := by omega
    rw [tagsAfter_backslashes, tagsAfter_of_odd odd plain, ih]
  | case4 run c rest plain opens ih =>
    rw [tagsAfter, opensTag_escapeTags, ih]
    · simp [opens]
    · exact plain

theorem closeEnd_eq (s : List Char) : closeEnd s = s ∨ closeEnd s = s ++ ['\\'] := by
  unfold closeEnd
  split
  · exact .inr rfl
  · split
    · exact .inl rfl
    · exact .inr rfl
  · exact .inl rfl

/-- An escaped text shows no tags. -/
theorem tags_escape (s : String) : tags (escape s) = [] := by
  have quoted := tagsAfter_escapeTags 0 s.toList
  rw [tags, escape, String.toList_ofList]
  rcases closeEnd_eq (escapeTags 0 s.toList) with same | closed
  · rw [same, quoted]
  · have separate : Separate ['\\'] := ⟨rfl, nofun, fun _ => rfl⟩
    rw [closed, tagsAfter_append separate, quoted]
    rfl

/-- An odd number of backslashes takes a tag back, an even number does not. -/
example : tags "\\[a] \\\\[b] [c" = ["b"] := by decide

theorem tags_append {tail : String} (separate : Separate tail.toList) (s : String) :
    tags (s ++ tail) = tags s ++ tags tail := by
  rw [tags, String.toList_append, tagsAfter_append separate]
  rfl

theorem tags_append_of_plain {front : String} (plain : ∀ c ∈ front.toList, c ≠ '[' ∧ c ≠ '\\')
    (s : String) : tags (front ++ s) = tags s := by
  rw [tags, String.toList_append, tags]
  generalize front.toList = cs at plain
  induction cs with
  | nil => rfl
  | cons c cs ih =>
    obtain ⟨opening, backslash⟩ := plain c List.mem_cons_self
    rw [List.cons_append, tagsAfter, ih fun c member => plain c (.tail _ member)]
    · simp [opening]
    · exact backslash

end Tags

/-- No bracket of a text opens a tag, whatever stands before it. -/
def Tagless (s : List Char) : Prop :=
  ∀ before rest, s = before ++ '[' :: rest → opensTag rest = false

/-- A text without brackets that open tags, and without a single backslash at its end. -/
def Plain (s : String) : Prop := Tagless s.toList ∧ closeEnd s.toList = s.toList

section Unchanged

theorem tagless_cons_iff {c : Char} {s : List Char} :
    Tagless (c :: s) ↔ (c = '[' → opensTag s = false) ∧ Tagless s := by
  constructor
  · intro free
    exact ⟨fun bracket => free [] s (by rw [bracket, List.nil_append]),
      fun before rest split => free (c :: before) rest (congrArg (c :: ·) split)⟩
  · intro ⟨here, later⟩ before rest split
    cases before with
    | nil =>
      obtain ⟨bracket, rfl⟩ := List.cons.inj split
      exact here bracket
    | cons b before => exact later before rest (List.cons.inj split).2

/-- Escaping leaves a text without brackets that open tags as it is, and changes any other text. -/
theorem escapeTags_eq_self_iff (run : Nat) (s : List Char) :
    escapeTags run s = s ↔ Tagless s := by
  fun_induction escapeTags run s with
  | case1 run => exact ⟨fun _ before rest split => by simp at split, fun _ => rfl⟩
  | case2 run rest ih =>
    rw [tagless_cons_iff, List.cons_inj_right, ih]
    exact ⟨fun free => ⟨fun bracket => absurd bracket (by decide), free⟩, And.right⟩
  | case3 run c rest plain opens ih =>
    obtain ⟨bracket, opensRest⟩ := Bool.and_eq_true_iff.mp opens
    constructor
    · intro same
      rw [List.replicate_succ, List.cons_append] at same
      exact absurd (List.cons.inj same).1.symm plain
    · intro free
      have shut := (tagless_cons_iff.mp free).1 (of_decide_eq_true bracket)
      exact absurd opensRest (by rw [shut]; decide)
  | case4 run c rest plain opens ih =>
    rw [tagless_cons_iff, List.cons_inj_right, ih]
    refine ⟨fun free => ⟨fun bracket => ?_, free⟩, And.right⟩
    simpa [bracket] using opens

theorem length_le_escapeTags (run : Nat) (s : List Char) :
    s.length ≤ (escapeTags run s).length := by
  fun_induction escapeTags run s with
  | case1 run => exact Nat.le_refl _
  | case2 run rest ih => exact Nat.succ_le_succ ih
  | case3 run c rest plain opens ih =>
    rw [List.length_append, List.length_cons, List.length_cons]
    omega
  | case4 run c rest plain opens ih => exact Nat.succ_le_succ ih

/-- Escaping leaves the plain texts as they are, and changes every other text. -/
theorem escape_eq_self_iff (s : String) : escape s = s ↔ Plain s := by
  rw [Plain, escape, ← String.toList_inj, String.toList_ofList]
  constructor
  · intro same
    have longer := length_le_escapeTags 0 s.toList
    rcases closeEnd_eq (escapeTags 0 s.toList) with kept | closed
    · have quoted : escapeTags 0 s.toList = s.toList := kept.symm.trans same
      exact ⟨(escapeTags_eq_self_iff 0 _).mp quoted, by rwa [quoted] at same⟩
    · have length := congrArg List.length (closed.symm.trans same)
      rw [List.length_append, List.length_singleton] at length
      omega
  · intro ⟨free, closed⟩
    rw [(escapeTags_eq_self_iff 0 _).mpr free, closed]

end Unchanged

end SchemaWeaver.Text.Markup
