import Mathlib.Algebra.Group.Nat.Even
import SchemaWeaver.Text.Literal

/-!
# Where literals end

A literal in a line of code ends at the first double quote that is not skipped, where a backslash
skips the character behind it. A text between the quotes keeps the literal open, so that it ends at
the quote which is meant to close it, exactly when no double quote in the text stands behind an even
number of backslashes and the text itself ends with an even number of them: `close?_iff`.
-/

namespace SchemaWeaver.Text.Literal

/-- Looks for the closing quote from behind the opening quote of a literal, skipping each backslash
with the character behind it. Gives what stands before the closing quote and what stands behind. -/
def close? : List Char → Option (List Char × List Char)
  | [] => none
  | '"' :: rest => some ([], rest)
  | ['\\'] => none
  | '\\' :: c :: rest => (close? rest).map fun (inside, behind) => ('\\' :: c :: inside, behind)
  | c :: rest => (close? rest).map fun (inside, behind) => (c :: inside, behind)

/-- The first literal in a line of code, and what stands behind it. -/
def first? (line : List Char) : Option (List Char × List Char) :=
  close? (line.dropWhile (· ≠ '"')).tail

/-- The number of backslashes at the end of a text. -/
def backslashesAtEnd (s : List Char) : Nat := (s.reverse.takeWhile (· = '\\')).length

/-- A double quote that ends the literal in which the text stands: right before it there is an even
number of backslashes. -/
def HasOpenQuote (s : List Char) : Prop :=
  ∃ before after, s = before ++ '"' :: after ∧ Even (backslashesAtEnd before)

section Scan

variable {c : Char} {s : List Char}

/-- A character that the scan takes alone is no backslash: neither one at the end nor one with a
character behind it. -/
theorem ne_backslash_of_alone (single : c = '\\' → s ≠ [])
    (pair : ∀ d rest, c = '\\' → s ≠ d :: rest) : c ≠ '\\' := by
  rintro rfl
  cases s with
  | nil => exact single rfl rfl
  | cons d rest => exact pair d rest rfl rfl

theorem close?_cons_of_ne (quote : c ≠ '"') (backslash : c ≠ '\\') :
    close? (c :: s) = (close? s).map fun (inside, behind) => (c :: inside, behind) := by
  rw [close?]
  · exact quote
  · exact fun h => absurd h backslash
  · exact fun _ _ h => absurd h backslash

end Scan

section Backslashes

variable {c : Char} {s front back : List Char}

theorem backslashesAtEnd_cons (c : Char) (s : List Char) : backslashesAtEnd (c :: s) =
    if backslashesAtEnd s = s.length then s.length + backslashesAtEnd [c]
    else backslashesAtEnd s := by
  rw [backslashesAtEnd, List.reverse_cons, List.takeWhile_append, List.length_reverse]
  by_cases all : (s.reverse.takeWhile (· = '\\')).length = s.length
  · rw [if_pos all, List.length_append, List.length_reverse, backslashesAtEnd, if_pos all]
    rfl
  · rw [if_neg all, backslashesAtEnd, if_neg all]

theorem backslashesAtEnd_cons_of_ne (other : c ≠ '\\') :
    backslashesAtEnd (c :: s) = backslashesAtEnd s := by
  have none : backslashesAtEnd [c] = 0 := by simp [backslashesAtEnd, other]
  rw [backslashesAtEnd_cons, none, Nat.add_zero]
  split <;> simp [*]

theorem backslashesAtEnd_append_of_notMem (plain : '\\' ∉ front) :
    backslashesAtEnd (front ++ s) = backslashesAtEnd s := by
  induction front with
  | nil => rfl
  | cons c rest ih =>
    rw [List.mem_cons, not_or] at plain
    rw [List.cons_append, backslashesAtEnd_cons_of_ne (Ne.symm plain.1), ih plain.2]

theorem backslashesAtEnd_of_behind (plain : '\\' ∉ back) (nonempty : back ≠ []) :
    backslashesAtEnd (s ++ back) = 0 := by
  obtain ⟨init, last, rfl⟩ := (List.eq_nil_or_concat back).resolve_left nonempty
  have other : last ≠ '\\' := fun same => plain (by simp [same])
  rw [backslashesAtEnd, List.concat_eq_append, ← List.append_assoc, List.reverse_append,
    List.reverse_singleton, List.singleton_append,
    List.takeWhile_cons_of_neg (by simpa using other), List.length_nil]

/-- A backslash with the character that it skips does not matter for what stands behind them. -/
theorem even_backslashesAtEnd_pair (c : Char) (s : List Char) :
    Even (backslashesAtEnd ('\\' :: c :: s)) ↔ Even (backslashesAtEnd s) := by
  have one : backslashesAtEnd ['\\'] = 1 := rfl
  have shorter : backslashesAtEnd s ≤ s.length := by
    rw [backslashesAtEnd, ← s.length_reverse]
    exact (List.takeWhile_sublist _).length_le
  by_cases backslash : c = '\\'
  · subst backslash
    rw [backslashesAtEnd_cons, backslashesAtEnd_cons '\\' s, one, List.length_cons]
    by_cases all : backslashesAtEnd s = s.length
    · rw [if_pos all, if_pos rfl, all, Nat.even_add_one, Nat.even_add_one, not_not]
    · rw [if_neg all, if_neg (by omega)]
  · have none : backslashesAtEnd [c] = 0 := by simp [backslashesAtEnd, backslash]
    rw [backslashesAtEnd_cons, backslashesAtEnd_cons_of_ne backslash, List.length_cons,
      if_neg (by omega)]

end Backslashes

section OpenQuotes

variable {c : Char} {s front back tail : List Char}

theorem quote_mem_of_hasOpenQuote (h : HasOpenQuote s) : '"' ∈ s := by
  obtain ⟨before, after, rfl, -⟩ := h
  exact List.mem_append_right before List.mem_cons_self

theorem hasOpenQuote_cons_of_ne (quote : c ≠ '"') (backslash : c ≠ '\\') :
    HasOpenQuote (c :: s) ↔ HasOpenQuote s := by
  constructor
  · rintro ⟨before, after, cut, even⟩
    cases before with
    | nil => exact absurd (List.cons.inj cut).1 quote
    | cons d before =>
      obtain ⟨rfl, rfl⟩ := List.cons.inj cut
      exact ⟨before, after, rfl, backslashesAtEnd_cons_of_ne backslash ▸ even⟩
  · rintro ⟨before, after, rfl, even⟩
    exact ⟨c :: before, after, rfl, (backslashesAtEnd_cons_of_ne backslash).symm ▸ even⟩

theorem hasOpenQuote_pair : HasOpenQuote ('\\' :: c :: s) ↔ HasOpenQuote s := by
  constructor
  · rintro ⟨before, after, cut, even⟩
    rcases before with _ | ⟨d, _ | ⟨e, before⟩⟩
    · exact absurd (List.cons.inj cut).1 (by decide)
    · rw [← (List.cons.inj cut).1] at even
      exact absurd even (by decide)
    · obtain ⟨rfl, rest⟩ := List.cons.inj cut
      obtain ⟨rfl, rfl⟩ := List.cons.inj rest
      exact ⟨before, after, rfl, (even_backslashesAtEnd_pair _ _).mp even⟩
  · rintro ⟨before, after, rfl, even⟩
    exact ⟨'\\' :: c :: before, after, rfl, (even_backslashesAtEnd_pair _ _).mpr even⟩

theorem hasOpenQuote_append_left (quote : '"' ∉ front) (backslash : '\\' ∉ front) :
    HasOpenQuote (front ++ s) ↔ HasOpenQuote s := by
  induction front with
  | nil => rfl
  | cons c rest ih =>
    rw [List.mem_cons, not_or] at quote backslash
    rw [List.cons_append, hasOpenQuote_cons_of_ne (Ne.symm quote.1) (Ne.symm backslash.1),
      ih quote.2 backslash.2]

theorem hasOpenQuote_append_right (plain : '"' ∉ back) :
    HasOpenQuote (s ++ back) ↔ HasOpenQuote s := by
  constructor
  · rintro ⟨before, after, cut, even⟩
    rcases List.append_eq_append_iff.mp cut with ⟨inner, -, rfl⟩ | ⟨inner, rfl, rest⟩
    · exact absurd (List.mem_append_right inner List.mem_cons_self) plain
    · cases inner with
      | nil =>
        obtain rfl : '"' :: after = back := rest
        exact absurd List.mem_cons_self plain
      | cons d inner =>
        obtain ⟨rfl, -⟩ := List.cons.inj rest
        exact ⟨before, inner, rfl, even⟩
  · rintro ⟨before, after, rfl, even⟩
    exact ⟨before, after ++ back, by simp, even⟩

/-- A literal ends behind a text exactly when the text has no open quote and does not skip the
quote behind it. -/
theorem close?_iff (s tail : List Char) : close? (s ++ '"' :: tail) = some (s, tail) ↔
    ¬ HasOpenQuote s ∧ Even (backslashesAtEnd s) := by
  -- The cases are those of the scan: the end, a quote, a single backslash, a pair, and another
  -- character.
  -- Only the last two go on, and neither changes whether a quote further behind is skipped.
  induction s using close?.induct with
  | case1 =>
    have noQuote : ¬ HasOpenQuote [] := fun h => List.not_mem_nil (quote_mem_of_hasOpenQuote h)
    exact iff_of_true rfl ⟨noQuote, Even.zero⟩
  | case2 rest =>
    refine iff_of_false (fun closed => ?_) fun h => h.1 ⟨[], rest, rfl, Even.zero⟩
    cases closed
  | case3 =>
    refine iff_of_false (fun closed => ?_) fun h => absurd h.2 (by decide)
    obtain ⟨found, -, same⟩ := Option.map_eq_some_iff.mp closed
    cases same
  | case4 c rest ih =>
    rw [hasOpenQuote_pair, even_backslashesAtEnd_pair, ← ih]
    simp [close?]
  | case5 c rest quote single pair ih =>
    have backslash : c ≠ '\\' := ne_backslash_of_alone single pair
    rw [hasOpenQuote_cons_of_ne quote backslash, backslashesAtEnd_cons_of_ne backslash, ← ih,
      List.cons_append, close?_cons_of_ne quote backslash]
    simp

end OpenQuotes

end SchemaWeaver.Text.Literal
