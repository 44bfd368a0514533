import SchemaWeaver.Proofs.Number.Steps
import SchemaWeaver.Proofs.Text.Trimming

/-!
# How integers are read

A text is read as an integer exactly when it spells it: `read_eq_ok_iff`. The steps of the reader,
taken together, are the ways to spell an integer, and white space around it is dropped. A text that
is refused for its length is not spelled in any of the more generous ways either.
-/

namespace SchemaWeaver.IntegerText

section Steps

variable {s : List Char} {n : Int}

theorem Filling.starts {filling : List Char} (fills : Filling filling) (rest : List Char) :
    ∀ c ∈ (filling ++ rest).head?, c.isDigit = true := by
  rw [fills.head?_append]
  rintro c ⟨⟩
  rfl

/-- What the steps of the reader make of a text without white space around it. -/
def Steps (s : List Char) (n : Int) : Prop :=
  ∃ filled magnitude, dropFilling (splitSign s).2 = some filled ∧
    ungrouped (dropZeroFraction filled) = some magnitude ∧
    readPlain (if (splitSign s).1 then '-' :: magnitude else magnitude) = .ok n

theorem Spells.steps (spells : Spells s n) : Steps s n := by
  cases spells with
  | @zero negative sign filling fraction signed fills last whole =>
    rw [Steps, splitSign_append signed (fills.starts _)]
    refine ⟨'0' :: fraction, ['0'], (Unfilled.zero fills last whole.head?).dropFilling_eq, ?_, ?_⟩
    · rw [← List.singleton_append, dropZeroFraction_append (by decide) whole]
      decide
    · cases negative <;> rfl
  | @number negative sign filling s digits fraction signed fills grouped leading short whole =>
    obtain ⟨d, more, others, rfl, rfl, digit⟩ := grouped.exists_cons
    have starts : ∀ c ∈ (filling ++ (d :: more ++ fraction)).head?, c.isDigit = true := by
      rcases fills with rfl | fills
      · rintro c ⟨⟩
        exact digit
      · exact fills.starts _
    have zero : d ≠ '0' := fun same => leading (congrArg some same)
    have minus : (d :: others).head? ≠ some '-' := fun same =>
      ne_of_isDigit digit rfl (Option.some.inj same)
    rw [Steps, splitSign_append signed starts]
    refine ⟨d :: more ++ fraction, d :: others, (Unfilled.number fills digit zero).dropFilling_eq,
      ?_, ?_⟩
    · rw [dropZeroFraction_append grouped.point_notMem whole, grouped.ungrouped_eq]
    · exact (readPlain_signed minus).mpr ⟨⟨grouped.ne_nil, grouped.all, .inr leading, short⟩, rfl⟩
  | @inner sign filling joint s digits fraction signed fills joins grouped plain whole =>
    have point : '.' ∉ '-' :: (joint ++ s) := by
      rcases joins with rfl | rfl <;> simp [grouped.point_notMem]
    rw [Steps, splitSign_append signed (fills.starts _)]
    refine ⟨'-' :: (joint ++ s) ++ fraction, '-' :: digits, (Unfilled.minus fills).dropFilling_eq,
      ?_, readPlain_signed_minus.mpr ⟨rfl, plain, rfl⟩⟩
    rw [dropZeroFraction_append point whole, ungrouped_minus_iff plain.ne_nil plain.all]
    exact ⟨joint, s, joins, rfl, grouped⟩

/-- Whatever is read has no decimal point left in it. -/
theorem point_notMem_of_read {negative : Bool} {u magnitude : List Char}
    (apart : ungrouped u = some magnitude)
    (read : readPlain (if negative then '-' :: magnitude else magnitude) = .ok n) : '.' ∉ u := by
  intro member
  have kept : '.' ∈ magnitude := mem_of_ungrouped apart member (by decide)
  have shown : '.' ∈ if negative then '-' :: magnitude else magnitude := by
    split
    · exact List.mem_cons_of_mem _ kept
    · exact kept
  exact absurd (mem_of_readPlain read shown) (by decide)

/-- When a zero is all that is left of a filling, a fraction is all that follows it. -/
theorem eq_nil_of_behind {u fraction : List Char} (point : '.' ∉ u)
    (behind : u ++ fraction = [] ∨ (u ++ fraction).head? = some '.') : u = [] := by
  cases u with
  | nil => rfl
  | cons c u =>
    rcases behind with none | some
    · cases none
    · cases some
      exact absurd List.mem_cons_self point

theorem Spells.of_steps (steps : Steps s n) : Spells s n := by
  obtain ⟨filled, magnitude, dropped, apart, read⟩ := steps
  obtain ⟨sign, signed, split⟩ := exists_sign s
  have point := point_notMem_of_read apart read
  obtain ⟨fraction, whole, ends⟩ := exists_of_dropZeroFraction point
  generalize dropZeroFraction filled = u at apart point ends
  generalize (splitSign s).1 = negative at signed read
  generalize (splitSign s).2 = body at dropped split
  subst split
  -- What is left without the fraction starts with the character that the filling was dropped for.
  cases u with
  | nil =>
    rw [ungrouped_nil] at apart
    cases apart
  | cons c u =>
  obtain ⟨-, others, rfl⟩ := exists_ungrouped_cons apart
  cases Unfilled.of_dropFilling dropped with
  | zero fills last behind =>
    obtain ⟨rfl, rfl⟩ := List.cons.inj ends
    obtain rfl := eq_nil_of_behind (fun member => point (List.mem_cons_of_mem _ member)) behind
    rw [ungrouped_singleton (by decide)] at apart
    cases apart
    obtain ⟨-, rfl⟩ := (readPlain_signed (by decide)).mp read
    rw [signedValue_zero]
    exact .zero signed fills last whole
  | @number filling rest d fills digit leading =>
    obtain ⟨rfl, rfl⟩ := List.cons.inj ends
    have minus : (d :: others).head? ≠ some '-' := fun same =>
      ne_of_isDigit digit rfl (Option.some.inj same)
    obtain ⟨plain, rfl⟩ := (readPlain_signed minus).mp read
    exact .number signed fills (.of_ungrouped apart plain.all)
      (fun same => leading (Option.some.inj same)) plain.short whole
  | minus fills =>
    obtain ⟨rfl, rfl⟩ := List.cons.inj ends
    obtain ⟨rfl, plain, rfl⟩ := readPlain_signed_minus.mp read
    obtain ⟨joint, t, joins, rfl, grouped⟩ := (ungrouped_minus_iff plain.ne_nil plain.all).mp apart
    exact .inner signed fills joins grouped plain whole

theorem plainForm?_readPlain_iff {s : List Char} :
    (plainForm? s).map readPlain = some (.ok n) ↔ Steps (unpadded s) n := by
  unfold plainForm? Steps
  cases dropped : dropFilling (splitSign (unpadded s)).2 with
  | none => simp [dropped]
  | some filled =>
    cases apart : ungrouped (dropZeroFraction filled) with
    | none => simp [dropped, apart]
    | some magnitude => simp [dropped, apart]

/-- What is read between white space. -/
theorem unpadded_iff : Steps (unpadded s) n ↔
    ∃ front inner back, (∀ c ∈ front, isPadding c = true) ∧ (∀ c ∈ back, isPadding c = true) ∧
      s = front ++ inner ++ back ∧ Spells inner n := by
  constructor
  · intro steps
    obtain ⟨front, back, front_all, back_all, split⟩ := Text.exists_eq_append_rdropWhile isPadding s
    exact ⟨front, unpadded s, back, front_all, back_all, split, .of_steps steps⟩
  · rintro ⟨front, inner, back, front_all, back_all, rfl, spells⟩
    have inside : unpadded (front ++ inner ++ back) = inner :=
      Text.rdropWhile_dropWhile_between front_all back_all
        (fun c member => spells.not_isPadding c (List.mem_of_mem_head? member))
        fun c member => spells.not_isPadding c (List.mem_of_mem_getLast? member)
    rw [inside]
    exact spells.steps

end Steps

section Reading

variable {s : List Char} {n : Int}

/-- What is read in plain form spells the integer without further ado. -/
theorem Spells.of_readPlain (read : readPlain s = .ok n) : Spells s n := by
  by_cases minus : s.head? = some '-'
  · obtain ⟨digits, rfl⟩ := List.head?_eq_some_iff.mp minus
    obtain ⟨plain, rfl⟩ := readPlain_minus_eq_ok_iff.mp read
    exact .of_plainDigits .minus plain
  · obtain ⟨plain, rfl⟩ := (readPlain_eq_ok_iff minus).mp read
    exact .of_plainDigits .none plain

/-- A text is refused for its length when too many digits follow its minus sign, if it has one, and
no zero stands in front of them. -/
theorem of_readPlain_tooLong (long : readPlain s = .error .tooLong) :
    maxDigits < ((splitSign s).2.takeWhile Char.isDigit).length ∧
      (splitSign s).2.head? ≠ some '0' ∧ ∀ c ∈ s.head?, isPadding c = false := by
  unfold readPlain at long
  split at long
  · obtain ⟨length, leading⟩ := of_map_readMagnitude_tooLong long
    refine ⟨length, leading, ?_⟩
    rintro c ⟨⟩
    decide
  · obtain ⟨length, leading⟩ := of_map_readMagnitude_tooLong long
    cases s with
    | nil => exact absurd length (by decide)
    | cons c rest =>
      have digit : c.isDigit = true := by
        by_contra other
        rw [List.takeWhile_cons_of_neg other] at length
        exact absurd length (by decide)
      have unsigned : splitSign (c :: rest) = (false, c :: rest) := by
        refine splitSign_append .none ?_
        rintro d ⟨⟩
        exact digit
      rw [unsigned]
      refine ⟨length, leading, ?_⟩
      rintro d ⟨⟩
      exact not_isPadding_of_isDigit digit

/-- An integer with too many digits in front is not spelled any other way. -/
theorem not_spelled_of_tooLong {s : String} (long : readPlain s.toList = .error .tooLong) :
    ¬ Spelled s n := by
  rintro ⟨front, inner, back, front_all, back_all, split, spells⟩
  obtain ⟨length, leading, visible⟩ := of_readPlain_tooLong long
  rw [split] at length leading visible
  cases front with
  | cons c front =>
    have padding := visible c rfl
    rw [front_all c List.mem_cons_self] at padding
    cases padding
  | nil =>
  obtain ⟨negative, sign, body, signed, rfl, starts⟩ := spells.exists_body
  have unsigned : splitSign ([] ++ (sign ++ body) ++ back) = (negative, body ++ back) := by
    rw [List.nil_append, List.append_assoc]
    refine splitSign_append signed fun c first => ?_
    rcases starts with zero | ⟨t, digits, fraction, rfl, grouped, -, -⟩
    · rw [List.head?_append, zero] at first
      cases first
      rfl
    · obtain ⟨d, more, -, rfl, -, digit⟩ := grouped.exists_cons
      cases first
      exact digit
  rw [unsigned] at length leading
  rcases starts with zero | ⟨t, digits, fraction, rfl, grouped, short, whole⟩
  · rw [List.head?_append, zero] at leading
    exact leading rfl
  · have stop : ∀ c ∈ (fraction ++ back).head?, c.isDigit = false := by
      intro c first
      cases whole with
      | none =>
        have padding := back_all c (List.mem_of_mem_head? first)
        refine Bool.eq_false_iff.mpr fun digit => ?_
        rw [not_isPadding_of_isDigit digit] at padding
        cases padding
      | zeros =>
        cases first
        decide
    rw [List.append_assoc] at length
    have inFront := grouped.length_takeWhile_le stop
    exact Nat.not_lt.mpr (Nat.le_trans inFront short) length

theorem spelled_iff {s : String} :
    Spelled s n ↔ (plainForm? s.toList).map readPlain = some (.ok n) := by
  rw [plainForm?_readPlain_iff, unpadded_iff, Spelled]

/-- A text is read as an integer when it spells it, and otherwise it is not read. -/
theorem read_eq_ok_iff {s : String} : read s = .ok n ↔ Spelled s n := by
  unfold read
  split
  · rename_i malformed
    rw [spelled_iff]
    split
    · rename_i found
      rw [found, Option.some.injEq]
    · rename_i other
      refine iff_of_false nofun (other n)
  · rename_i other
    cases plain : readPlain s.toList with
    | ok m =>
      have spelled : Spelled s m :=
        ⟨[], s.toList, [], nofun, nofun, by simp, .of_readPlain plain⟩
      rw [spelled_iff] at spelled ⊢
      rw [spelled, Option.some.injEq]
    | error refusal =>
      cases refusal with
      | malformed => exact absurd plain other
      | tooLong => exact iff_of_false nofun (not_spelled_of_tooLong plain)

end Reading

end SchemaWeaver.IntegerText
