import Mathlib.Data.List.TakeWhile
import SchemaWeaver.Proofs.Number.Spelling

/-!
# The steps of reading an integer

The reader drops what it is generous about and reads what is left in plain form. Each step is
described by itself: which underscores stand apart, which digits are plain, what is left of a
filling at the front of a number and of a fraction of zeros, and which sign is split off.
-/

namespace SchemaWeaver.IntegerText

section Groups

variable {s t digits : List Char} {c d : Char}

theorem ungrouped_singleton (h : c ≠ '_') : ungrouped [c] = some [c] := by
  simp [ungrouped, Text.stretches, h]

/-- An underscore behind a character separates two groups. -/
theorem ungrouped_cons_underscore (h : c ≠ '_') (s : List Char) :
    ungrouped (c :: '_' :: s) = (ungrouped s).map (c :: ·) := by
  simp only [ungrouped, Text.stretches, if_neg h, if_true]
  split <;> simp_all

theorem ungrouped_cons_cons (h : c ≠ '_') (h' : d ≠ '_') (s : List Char) :
    ungrouped (c :: d :: s) = (ungrouped (d :: s)).map (c :: ·) := by
  simp only [ungrouped, Text.stretches, if_neg h, if_neg h']
  cases Text.stretches '_' s with
  | nil => simp
  | cons first others =>
    dsimp only
    split <;> simp_all

theorem ungrouped_underscore (s : List Char) : ungrouped ('_' :: s) = none := by
  simp [ungrouped, Text.stretches]

theorem ungrouped_nil : ungrouped [] = none := by decide

/-- What is left without underscores starts with the same character. -/
theorem exists_ungrouped_cons {plain : List Char} (read : ungrouped (c :: s) = some plain) :
    c ≠ '_' ∧ ∃ others, plain = c :: others := by
  have other : c ≠ '_' := by
    rintro rfl
    rw [ungrouped_underscore] at read
    cases read
  refine ⟨other, ?_⟩
  cases s with
  | nil =>
    rw [ungrouped_singleton other] at read
    cases read
    exact ⟨[], rfl⟩
  | cons d s =>
    by_cases apart : d = '_'
    · rw [apart, ungrouped_cons_underscore other] at read
      obtain ⟨others, -, rfl⟩ := Option.map_eq_some_iff.mp read
      exact ⟨others, rfl⟩
    · rw [ungrouped_cons_cons other apart] at read
      obtain ⟨others, -, rfl⟩ := Option.map_eq_some_iff.mp read
      exact ⟨others, rfl⟩

/-- Nothing but underscores is lost. -/
theorem mem_of_ungrouped : ∀ {s plain : List Char}, ungrouped s = some plain →
    ∀ {c : Char}, c ∈ s → c ≠ '_' → c ∈ plain
  | [], _, read, _, _, _ => by rw [ungrouped_nil] at read; cases read
  | [c], _, read, _, member, other => by
    cases List.mem_singleton.mp member
    rw [ungrouped_singleton other] at read
    cases read
    exact List.mem_singleton_self _
  | c :: d :: s, plain, read, e, member, other => by
    obtain ⟨first, -⟩ := exists_ungrouped_cons read
    by_cases apart : d = '_'
    · rw [apart, ungrouped_cons_underscore first] at read
      obtain ⟨others, rest, rfl⟩ := Option.map_eq_some_iff.mp read
      rw [apart, List.mem_cons, List.mem_cons] at member
      rcases member with rfl | rfl | later
      · exact List.mem_cons_self
      · exact absurd rfl other
      · exact List.mem_cons_of_mem _ (mem_of_ungrouped rest later other)
    · rw [ungrouped_cons_cons first apart] at read
      obtain ⟨others, rest, rfl⟩ := Option.map_eq_some_iff.mp read
      rcases List.mem_cons.mp member with rfl | later
      · exact List.mem_cons_self
      · exact List.mem_cons_of_mem _ (mem_of_ungrouped rest later other)

theorem Grouped.of_ungrouped : ∀ {s digits : List Char}, ungrouped s = some digits →
    (∀ c ∈ digits, c.isDigit = true) → Grouped s digits
  | [], _, read, _ => by rw [ungrouped_nil] at read; cases read
  | [c], _, read, all => by
    rw [ungrouped_singleton (exists_ungrouped_cons read).1] at read
    cases read
    exact .last (all c (List.mem_singleton_self c))
  | c :: d :: s, _, read, all => by
    obtain ⟨first, -⟩ := exists_ungrouped_cons read
    by_cases apart : d = '_'
    · rw [apart, ungrouped_cons_underscore first] at read
      obtain ⟨others, rest, rfl⟩ := Option.map_eq_some_iff.mp read
      rw [List.forall_mem_cons] at all
      exact apart ▸ .apart all.1 (.of_ungrouped rest all.2)
    · rw [ungrouped_cons_cons first apart] at read
      obtain ⟨others, rest, rfl⟩ := Option.map_eq_some_iff.mp read
      rw [List.forall_mem_cons] at all
      exact .next all.1 (.of_ungrouped rest all.2)

theorem Grouped.ungrouped_cons (grouped : Grouped s digits) (h : c ≠ '_') :
    ungrouped (c :: s) = (ungrouped s).map (c :: ·) := by
  obtain ⟨d, more, -, rfl, -, digit⟩ := grouped.exists_cons
  exact ungrouped_cons_cons h (ne_of_isDigit digit rfl) more

theorem Grouped.ungrouped_eq (grouped : Grouped s digits) : ungrouped s = some digits := by
  induction grouped with
  | last digit => exact ungrouped_singleton (ne_of_isDigit digit rfl)
  | next digit more ih =>
    rw [more.ungrouped_cons (ne_of_isDigit digit rfl), ih, Option.map_some]
  | apart digit _ ih =>
    rw [ungrouped_cons_underscore (ne_of_isDigit digit rfl), ih, Option.map_some]

/-- Behind a minus, the first group may be separated by an underscore as well. -/
theorem ungrouped_minus_iff (ne_nil : digits ≠ []) (all : ∀ c ∈ digits, c.isDigit = true) :
    ungrouped ('-' :: s) = some ('-' :: digits) ↔
      ∃ joint t, (joint = [] ∨ joint = ['_']) ∧ s = joint ++ t ∧ Grouped t digits := by
  have other : '-' ≠ '_' := by decide
  constructor
  · intro read
    cases s with
    | nil =>
      rw [ungrouped_singleton other] at read
      exact absurd (List.cons.inj (Option.some.inj read)).2.symm ne_nil
    | cons c s =>
      by_cases apart : c = '_'
      · rw [apart, ungrouped_cons_underscore other] at read
        obtain ⟨others, rest, same⟩ := Option.map_eq_some_iff.mp read
        cases same
        exact ⟨['_'], s, .inr rfl, congrArg (· :: s) apart, .of_ungrouped rest all⟩
      · rw [ungrouped_cons_cons other apart] at read
        obtain ⟨others, rest, same⟩ := Option.map_eq_some_iff.mp read
        cases same
        exact ⟨[], c :: s, .inl rfl, rfl, .of_ungrouped rest all⟩
  · rintro ⟨_, t, rfl | rfl, rfl, grouped⟩
    · rw [grouped.ungrouped_cons other, grouped.ungrouped_eq, Option.map_some]
    · rw [List.singleton_append, ungrouped_cons_underscore other, grouped.ungrouped_eq,
        Option.map_some]

end Groups

section Plain

variable {s digits : List Char}

/-- A plain number that is not negative is read when it has plain digits. -/
theorem readMagnitude_eq_ok_iff {n : Nat} :
    readMagnitude s = .ok n ↔ PlainDigits s ∧ digitsValue s = n := by
  constructor
  · intro read
    unfold readMagnitude at read
    split at read
    · cases read
      exact ⟨⟨List.cons_ne_nil _ _, List.forall_mem_singleton.mpr rfl, .inl rfl, by decide⟩, rfl⟩
    · cases read
    · rename_i zero leading
      dsimp only at read
      split at read
      · cases read
      rename_i short
      split at read
      · cases read
      rename_i whole
      rw [Bool.or_eq_true, not_or, List.isEmpty_iff, decide_eq_true_eq] at whole
      have all : s.takeWhile Char.isDigit = s :=
        (List.takeWhile_prefix _).eq_of_length_le (Nat.le_of_not_lt whole.2)
      rw [all] at read whole short
      cases read
      refine ⟨⟨whole.1, List.takeWhile_eq_self_iff.mp all, .inr ?_, Nat.le_of_not_lt short⟩, rfl⟩
      intro head
      cases s with
      | nil => cases head
      | cons c rest =>
        cases head
        exact leading rest rfl
  · rintro ⟨⟨ne_nil, all, leading, short⟩, rfl⟩
    unfold readMagnitude
    split
    · rfl
    · rename_i rest single
      rcases leading with same | other
      · exact absurd (List.cons.inj same).2 single
      · exact absurd rfl other
    · have whole : s.takeWhile Char.isDigit = s := List.takeWhile_eq_self_iff.mpr all
      simp [whole, ne_nil, Nat.not_lt.mpr short]

theorem map_readMagnitude_eq_ok_iff {f : Nat → Int} {n : Int} :
    (readMagnitude s).map f = .ok n ↔ PlainDigits s ∧ n = f (digitsValue s) := by
  constructor
  · intro read
    cases magnitude : readMagnitude s with
    | error refusal => rw [magnitude] at read; cases read
    | ok m =>
      rw [magnitude] at read
      cases read
      obtain ⟨plain, rfl⟩ := readMagnitude_eq_ok_iff.mp magnitude
      exact ⟨plain, rfl⟩
  · rintro ⟨plain, rfl⟩
    rw [readMagnitude_eq_ok_iff.mpr ⟨plain, rfl⟩]
    rfl

theorem readPlain_minus_eq_ok_iff {n : Int} :
    readPlain ('-' :: s) = .ok n ↔ PlainDigits s ∧ n = signedValue true s :=
  map_readMagnitude_eq_ok_iff

theorem readPlain_of_ne_minus (h : s.head? ≠ some '-') :
    readPlain s = (readMagnitude s).map Int.ofNat := by
  unfold readPlain
  split
  · exact absurd rfl h
  · rfl

theorem readPlain_eq_ok_iff {n : Int} (h : s.head? ≠ some '-') :
    readPlain s = .ok n ↔ PlainDigits s ∧ n = signedValue false s := by
  rw [readPlain_of_ne_minus h]
  exact map_readMagnitude_eq_ok_iff

/-- Too many digits are refused for their number when no zero stands in front of them. -/
theorem of_map_readMagnitude_tooLong {f : Nat → Int}
    (long : (readMagnitude s).map f = .error .tooLong) :
    maxDigits < (s.takeWhile Char.isDigit).length ∧ s.head? ≠ some '0' := by
  unfold readMagnitude at long
  split at long
  · cases long
  · cases long
  · rename_i single leading
    dsimp only at long
    split at long
    · rename_i length
      refine ⟨length, fun zero => ?_⟩
      obtain ⟨rest, rfl⟩ := List.head?_eq_some_iff.mp zero
      exact leading rest rfl
    · split at long <;> cases long

end Plain

section Parts

variable {s t u : List Char}

theorem isFiller_iff {c : Char} : isFiller c = true ↔ c = '0' ∨ c = '_' := by
  simp [isFiller]

/-- What is made of a filling only depends on what follows it, and on its last character. -/
theorem dropFilling_append {filling rest : List Char} (fills : Filling filling) :
    (∀ c ∈ rest.head?, isFiller c = false) → dropFilling (filling ++ rest) =
      match rest with
      | [] => if filling.getLast? == some '0' then some ['0'] else none
      | '.' :: rest => if filling.getLast? == some '0' then some ('0' :: '.' :: rest) else none
      | c :: rest => if c.isDigit || c == '-' then some (c :: rest) else none := by
  intro stop
  have all : ∀ c ∈ filling, isFiller c = true := fun c member =>
    isFiller_iff.mpr (fills.all c member)
  have front : (filling ++ rest).takeWhile isFiller = filling := by
    rw [List.takeWhile_append_of_pos all]
    cases rest with
    | nil => exact List.append_nil filling
    | cons c rest => rw [List.takeWhile_cons_of_neg (by simp [stop c rfl]), List.append_nil]
  have behind : (filling ++ rest).dropWhile isFiller = rest := by
    rw [List.dropWhile_append_of_pos all]
    cases rest with
    | nil => rfl
    | cons c rest => rw [List.dropWhile_cons_of_neg (by simp [stop c rfl])]
  obtain ⟨others, rfl⟩ := fills.exists_cons
  unfold dropFilling
  rw [front, behind]
  rfl

/-- Without a zero in front there is no filling to be dropped. -/
theorem dropFilling_of_ne_zero {c : Char} (other : c ≠ '0') (rest : List Char) :
    dropFilling (c :: rest) = if c.isDigit then some (c :: rest) else none := by
  unfold dropFilling
  dsimp only
  split
  · rename_i same
    exact absurd (List.cons.inj same).1 other
  · rename_i same
    cases same
    rfl
  · rename_i same
    cases same

/-- A text that starts with a zero is a filling and a rest that does not go on with it. -/
theorem exists_filling (s : List Char) : ∃ filling rest, '0' :: s = filling ++ rest ∧
    Filling filling ∧ ∀ c ∈ rest.head?, isFiller c = false := by
  refine ⟨_, _, (List.takeWhile_append_dropWhile (p := isFiller)).symm, ⟨rfl, ?_⟩, ?_⟩
  · exact fun c member => isFiller_iff.mp (List.mem_takeWhile_imp member)
  · intro c member
    have := List.head?_dropWhile_not isFiller ('0' :: s)
    rw [Option.mem_def.mp member] at this
    exact this

/-- What the reader goes on with behind the filling: a zero, perhaps with a decimal point behind it,
or a digit or a minus sign. A digit may have a filling in front of it, and a minus sign has one. -/
inductive Unfilled : List Char → List Char → Prop
  | zero {filling rest : List Char} (fills : Filling filling) (last : filling.getLast? = some '0')
    (behind : rest = [] ∨ rest.head? = some '.') : Unfilled (filling ++ rest) ('0' :: rest)
  | number {filling rest : List Char} {c : Char} (fills : filling = [] ∨ Filling filling)
    (digit : c.isDigit = true) (leading : c ≠ '0') : Unfilled (filling ++ c :: rest) (c :: rest)
  | minus {filling rest : List Char} (fills : Filling filling) :
    Unfilled (filling ++ '-' :: rest) ('-' :: rest)

theorem Unfilled.of_dropFilling (dropped : dropFilling s = some t) : Unfilled s t := by
  cases s with
  | nil => cases dropped
  | cons c s =>
  by_cases zero : c = '0'
  · subst zero
    obtain ⟨filling, rest, split, fills, stop⟩ := exists_filling s
    rw [split, dropFilling_append fills stop] at dropped
    rw [split]
    split at dropped
    · split at dropped
      · rename_i last
        cases dropped
        exact .zero fills (beq_iff_eq.mp last) (.inl rfl)
      · cases dropped
    · split at dropped
      · rename_i last
        cases dropped
        exact .zero fills (beq_iff_eq.mp last) (.inr rfl)
      · cases dropped
    · split at dropped
      · rename_i d others _ first
        cases dropped
        rw [Bool.or_eq_true, beq_iff_eq] at first
        rcases first with digit | rfl
        · refine .number (.inr fills) digit ?_
          rintro rfl
          exact absurd (stop '0' rfl) (by decide)
        · exact .minus fills
      · cases dropped
  · rw [dropFilling_of_ne_zero zero] at dropped
    split at dropped
    · rename_i digit
      cases dropped
      exact .number (.inl rfl) digit zero
    · cases dropped

theorem Unfilled.dropFilling_eq (unfilled : Unfilled s t) : dropFilling s = some t := by
  cases unfilled with
  | @zero filling rest fills last behind =>
    have stop : ∀ c ∈ rest.head?, isFiller c = false := by
      rcases behind with rfl | point
      · nofun
      · rw [point]
        rintro c ⟨⟩
        decide
    rw [dropFilling_append fills stop]
    rcases behind with rfl | point
    · simp [last]
    · obtain ⟨others, rfl⟩ := List.head?_eq_some_iff.mp point
      simp [last]
  | @number filling rest c fills digit leading =>
    rcases fills with rfl | fills
    · rw [List.nil_append, dropFilling_of_ne_zero leading, if_pos digit]
    · have stop : ∀ d ∈ (c :: rest).head?, isFiller d = false := by
        rintro d ⟨⟩
        simp [isFiller, leading, ne_of_isDigit digit (show '_'.isDigit = false from rfl)]
      rw [dropFilling_append fills stop]
      split
      · rename_i same
        cases same
      · rename_i same
        exact absurd (List.cons.inj same).1 (ne_of_isDigit digit rfl)
      · rename_i same
        cases same
        rw [digit, Bool.true_or, if_pos rfl]
  | minus fills =>
    rw [dropFilling_append fills (by rintro d ⟨⟩; decide)]
    simp

theorem dropZeroFraction_append (point : '.' ∉ u) (whole : ZeroFraction t) :
    dropZeroFraction (u ++ t) = u := by
  have before : ∀ c ∈ u, decide (c ≠ '.') = true := fun c member =>
    decide_eq_true fun same => point (same ▸ member)
  unfold dropZeroFraction
  rw [List.dropWhile_append_of_pos before, List.takeWhile_append_of_pos before]
  cases whole with
  | none => simp
  | @zeros zeros ne_nil all =>
    have zeroes : zeros.all (· == '0') = true :=
      List.all_eq_true.mpr fun c member => beq_iff_eq.mpr (all c member)
    simp [ne_nil, zeroes]

theorem exists_of_dropZeroFraction (point : '.' ∉ dropZeroFraction s) :
    ∃ fraction, ZeroFraction fraction ∧ s = dropZeroFraction s ++ fraction := by
  have split : s.takeWhile (· ≠ '.') ++ s.dropWhile (· ≠ '.') = s :=
    List.takeWhile_append_dropWhile
  unfold dropZeroFraction at point ⊢
  cases behind : s.dropWhile (· ≠ '.') with
  | nil => exact ⟨[], .none, (List.append_nil s).symm⟩
  | cons c zeros =>
    have isPoint : c = '.' := by
      have stop := List.head?_dropWhile_not (· ≠ '.') s
      rw [behind] at stop
      simpa using stop
    rw [behind, isPoint] at split
    rw [behind] at point
    dsimp only at point ⊢
    split at point
    · rename_i whole
      rw [Bool.and_eq_true, Bool.not_eq_true', List.isEmpty_eq_false_iff, List.all_eq_true] at whole
      rw [if_pos (by simpa using whole)]
      have all : ∀ c ∈ zeros, c = '0' := fun c member => beq_iff_eq.mp (whole.2 c member)
      exact ⟨'.' :: zeros, .zeros whole.1 all, split.symm⟩
    · rw [← split] at point
      exact absurd (List.mem_append_right _ List.mem_cons_self) point

/-- A sign is split off from a number. -/
theorem splitSign_append {negative : Bool} {sign : List Char} (signed : Sign negative sign)
    (starts : ∀ c ∈ s.head?, c.isDigit = true) : splitSign (sign ++ s) = (negative, s) := by
  cases signed with
  | none =>
    rw [List.nil_append]
    unfold splitSign
    split
    · exact absurd (starts '-' rfl) (by decide)
    · exact absurd (starts '+' rfl) (by decide)
    · rfl
  | plus => rfl
  | minus => rfl

theorem exists_sign (s : List Char) :
    ∃ sign, Sign (splitSign s).1 sign ∧ s = sign ++ (splitSign s).2 := by
  unfold splitSign
  split
  · exact ⟨_, .minus, rfl⟩
  · exact ⟨_, .plus, rfl⟩
  · exact ⟨_, .none, rfl⟩

end Parts

section Signed

variable {magnitude digits : List Char} {n : Int}

/-- The form that is read at last: with a minus when one was split off. -/
theorem readPlain_signed {negative : Bool} (other : magnitude.head? ≠ some '-') :
    readPlain (if negative then '-' :: magnitude else magnitude) = .ok n ↔
      PlainDigits magnitude ∧ n = signedValue negative magnitude := by
  cases negative with
  | false => exact readPlain_eq_ok_iff other
  | true => exact readPlain_minus_eq_ok_iff

/-- There is no room for two minus signs. -/
theorem readPlain_signed_minus {negative : Bool} :
    readPlain (if negative then '-' :: '-' :: digits else '-' :: digits) = .ok n ↔
      negative = false ∧ PlainDigits digits ∧ n = signedValue true digits := by
  cases negative with
  | false =>
    rw [if_neg Bool.false_ne_true, readPlain_minus_eq_ok_iff]
    exact (and_iff_right rfl).symm
  | true =>
    rw [if_pos rfl, readPlain_minus_eq_ok_iff]
    refine iff_of_false (fun read => ?_) fun read => nomatch read.1
    exact absurd (read.1.all '-' List.mem_cons_self) (by decide)

theorem mem_of_readPlain {form : List Char} (read : readPlain form = .ok n) {c : Char}
    (member : c ∈ form) : c = '-' ∨ c.isDigit = true := by
  by_cases minus : form.head? = some '-'
  · obtain ⟨digits, rfl⟩ := List.head?_eq_some_iff.mp minus
    exact (List.mem_cons.mp member).imp id ((readPlain_minus_eq_ok_iff.mp read).1.all c)
  · exact .inr ((readPlain_eq_ok_iff minus).mp read |>.1.all c member)

end Signed

end SchemaWeaver.IntegerText
