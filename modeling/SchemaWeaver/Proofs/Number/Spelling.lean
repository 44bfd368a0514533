import SchemaWeaver.Number.IntegerText

/-!
# How integers are spelled

A text spells an integer by a sign and a number, perhaps between white space. The number is made of
digits with single underscores between them and perhaps a decimal point with zeros behind it; zeros
and underscores may fill its front, where a zero comes first. The filling is not what one expects:
its underscores need not stand alone, and a minus may stand behind it.
-/

namespace SchemaWeaver.IntegerText

/-- Digits with single underscores between them, and the digits alone. -/
inductive Grouped : List Char → List Char → Prop
  | last {d : Char} (digit : d.isDigit = true) : Grouped [d] [d]
  | next {d : Char} {s digits : List Char} (digit : d.isDigit = true) (more : Grouped s digits) :
    Grouped (d :: s) (d :: digits)
  | apart {d : Char} {s digits : List Char} (digit : d.isDigit = true) (more : Grouped s digits) :
    Grouped (d :: '_' :: s) (d :: digits)

/-- The digits of a plain number: a zero, or digits that do not start with one. -/
structure PlainDigits (digits : List Char) : Prop where
  ne_nil : digits ≠ []
  all : ∀ c ∈ digits, c.isDigit = true
  leading : digits = ['0'] ∨ digits.head? ≠ some '0'
  short : digits.length ≤ maxDigits

/-- What may fill the front of a number: zeros and underscores, a zero first. -/
structure Filling (s : List Char) : Prop where
  zero : s.head? = some '0'
  all : ∀ c ∈ s, c = '0' ∨ c = '_'

/-- A sign that may be left out, and whether it is a minus. -/
inductive Sign : Bool → List Char → Prop
  | none : Sign false []
  | plus : Sign false ['+']
  | minus : Sign true ['-']

/-- The integer that digits stand for behind a sign. -/
def signedValue (negative : Bool) (digits : List Char) : Int :=
  if negative then -(digitsValue digits : Int) else digitsValue digits

/-- Nothing, or a decimal point with zeros behind it. -/
inductive ZeroFraction : List Char → Prop
  | none : ZeroFraction []
  | zeros {zeros : List Char} (ne_nil : zeros ≠ []) (all : ∀ c ∈ zeros, c = '0') :
    ZeroFraction ('.' :: zeros)

/-- A text that spells an integer, without white space around it. -/
inductive Spells : List Char → Int → Prop
  | zero {negative : Bool} {sign filling fraction : List Char} (signed : Sign negative sign)
    (fills : Filling filling) (last : filling.getLast? = some '0')
    (whole : ZeroFraction fraction) : Spells (sign ++ (filling ++ fraction)) 0
  | number {negative : Bool} {sign filling s digits fraction : List Char}
    (signed : Sign negative sign) (fills : filling = [] ∨ Filling filling)
    (grouped : Grouped s digits) (leading : digits.head? ≠ some '0')
    (short : digits.length ≤ maxDigits) (whole : ZeroFraction fraction) :
    Spells (sign ++ (filling ++ (s ++ fraction))) (signedValue negative digits)
  | inner {sign filling joint s digits fraction : List Char} (signed : Sign false sign)
    (fills : Filling filling) (joins : joint = [] ∨ joint = ['_']) (grouped : Grouped s digits)
    (plain : PlainDigits digits) (whole : ZeroFraction fraction) :
    Spells (sign ++ (filling ++ ('-' :: (joint ++ s) ++ fraction))) (signedValue true digits)

/-- A text that spells an integer, perhaps with white space around it. -/
def Spelled (s : String) (n : Int) : Prop :=
  ∃ front inner back, (∀ c ∈ front, isPadding c = true) ∧ (∀ c ∈ back, isPadding c = true) ∧
    s.toList = front ++ inner ++ back ∧ Spells inner n

/-- The usual description of a text that spells an integer: between blank characters a sign, digits
with single underscores between them, and perhaps a decimal point with zeros. -/
def Described (s : String) (n : Int) : Prop :=
  ∃ front negative sign t digits fraction back, (∀ c ∈ front, Text.isBlank c = true) ∧
    (∀ c ∈ back, Text.isBlank c = true) ∧ Sign negative sign ∧ Grouped t digits ∧
    ZeroFraction fraction ∧ s.toList = front ++ sign ++ t ++ fraction ++ back ∧
    n = signedValue negative digits

section Groups

variable {s digits : List Char} {c d : Char}

theorem ne_of_isDigit (digit : c.isDigit = true) (other : d.isDigit = false) : c ≠ d := by
  rintro rfl
  rw [digit] at other
  cases other

theorem Grouped.all (grouped : Grouped s digits) : ∀ c ∈ digits, c.isDigit = true := by
  induction grouped with
  | last digit => exact List.forall_mem_singleton.mpr digit
  | next digit _ ih => exact List.forall_mem_cons.mpr ⟨digit, ih⟩
  | apart digit _ ih => exact List.forall_mem_cons.mpr ⟨digit, ih⟩

theorem Grouped.mem (grouped : Grouped s digits) : ∀ c ∈ s, c.isDigit = true ∨ c = '_' := by
  induction grouped with
  | last digit => exact List.forall_mem_singleton.mpr (.inl digit)
  | next digit _ ih => exact List.forall_mem_cons.mpr ⟨.inl digit, ih⟩
  | apart digit _ ih =>
    exact List.forall_mem_cons.mpr ⟨.inl digit, List.forall_mem_cons.mpr ⟨.inr rfl, ih⟩⟩

theorem Grouped.ne_nil (grouped : Grouped s digits) : digits ≠ [] := by
  cases grouped <;> exact List.cons_ne_nil _ _

theorem Grouped.exists_cons (grouped : Grouped s digits) :
    ∃ d more others, s = d :: more ∧ digits = d :: others ∧ d.isDigit = true := by
  cases grouped with
  | last digit => exact ⟨_, _, _, rfl, rfl, digit⟩
  | next digit _ => exact ⟨_, _, _, rfl, rfl, digit⟩
  | apart digit _ => exact ⟨_, _, _, rfl, rfl, digit⟩

theorem Grouped.point_notMem (grouped : Grouped s digits) : '.' ∉ s :=
  fun member => absurd (grouped.mem '.' member) (by decide)

/-- Digits are digits with no underscores between them. -/
theorem grouped_self (ne_nil : digits ≠ []) (all : ∀ c ∈ digits, c.isDigit = true) :
    Grouped digits digits := by
  induction digits with
  | nil => exact absurd rfl ne_nil
  | cons d digits ih =>
    rw [List.forall_mem_cons] at all
    cases digits with
    | nil => exact .last all.1
    | cons next digits => exact .next all.1 (ih (List.cons_ne_nil _ _) all.2)

/-- Where digits are grouped, there are not more of them in front than there are at all. -/
theorem Grouped.length_takeWhile_le {rest : List Char} (grouped : Grouped s digits)
    (stop : ∀ c ∈ rest.head?, c.isDigit = false) :
    ((s ++ rest).takeWhile Char.isDigit).length ≤ digits.length := by
  induction grouped with
  | last digit =>
    have ends : rest.takeWhile Char.isDigit = [] := by
      cases rest with
      | nil => rfl
      | cons c rest => exact List.takeWhile_cons_of_neg (by simp [stop c rfl])
    simp [digit, ends]
  | next digit _ ih =>
    rw [List.cons_append, List.takeWhile_cons_of_pos digit]
    exact Nat.succ_le_succ ih
  | apart digit _ _ =>
    rw [List.cons_append, List.takeWhile_cons_of_pos digit, List.cons_append,
      List.takeWhile_cons_of_neg (by decide)]
    exact Nat.succ_le_succ (Nat.zero_le _)

end Groups

section Pieces

variable {negative : Bool} {s sign digits : List Char} {n : Int}

theorem Filling.exists_cons (fills : Filling s) : ∃ others, s = '0' :: others :=
  List.head?_eq_some_iff.mp fills.zero

theorem Filling.head?_append (fills : Filling s) (rest : List Char) :
    (s ++ rest).head? = some '0' := by
  rw [List.head?_append, fills.zero, Option.some_or]

theorem ZeroFraction.head? (whole : ZeroFraction s) : s = [] ∨ s.head? = some '.' := by
  cases whole with
  | none => exact .inl rfl
  | zeros => exact .inr rfl

theorem signedValue_zero (negative : Bool) : signedValue negative ['0'] = 0 := by
  cases negative <;> rfl

/-- Plain digits spell the integer that they stand for. -/
theorem Spells.of_plainDigits (signed : Sign negative sign) (plain : PlainDigits digits) :
    Spells (sign ++ digits) (signedValue negative digits) := by
  rcases plain.leading with rfl | leading
  · rw [signedValue_zero]
    have fills : Filling ['0'] := ⟨rfl, List.forall_mem_singleton.mpr (.inl rfl)⟩
    exact .zero signed fills rfl .none
  · have spells : Spells (sign ++ ([] ++ (digits ++ []))) _ :=
      .number signed (.inl rfl) (grouped_self plain.ne_nil plain.all) leading plain.short .none
    rwa [List.nil_append, List.append_nil] at spells

/-- Behind the sign stands a zero, or a number without filling. -/
theorem Spells.exists_body (spells : Spells s n) :
    ∃ negative sign body, Sign negative sign ∧ s = sign ++ body ∧
      (body.head? = some '0' ∨ ∃ t digits fraction, body = t ++ fraction ∧ Grouped t digits ∧
        digits.length ≤ maxDigits ∧ ZeroFraction fraction) := by
  cases spells with
  | zero signed fills _ _ => exact ⟨_, _, _, signed, rfl, .inl (fills.head?_append _)⟩
  | number signed fills grouped _ short whole =>
    refine ⟨_, _, _, signed, rfl, ?_⟩
    rcases fills with rfl | fills
    · exact .inr ⟨_, _, _, List.nil_append _, grouped, short, whole⟩
    · exact .inl (fills.head?_append _)
  | inner signed fills _ _ _ _ => exact ⟨_, _, _, signed, rfl, .inl (fills.head?_append _)⟩

end Pieces

section Padding

variable {s digits : List Char} {n : Int}

theorem not_isPadding_of_isDigit {c : Char} (digit : c.isDigit = true) : isPadding c = false := by
  have range : 48 ≤ c.toNat ∧ c.toNat ≤ 57 := by
    simpa [Char.isDigit, UInt32.le_iff_toNat_le] using digit
  simp [isPadding, Text.isBlank]
  omega

theorem Sign.not_isPadding {negative : Bool} (signed : Sign negative s) :
    ∀ c ∈ s, isPadding c = false := by
  cases signed with
  | none => nofun
  | plus => exact List.forall_mem_singleton.mpr (by decide)
  | minus => exact List.forall_mem_singleton.mpr (by decide)

theorem Filling.not_isPadding (fills : Filling s) : ∀ c ∈ s, isPadding c = false := by
  intro c member
  rcases fills.all c member with rfl | rfl <;> decide

theorem Grouped.not_isPadding (grouped : Grouped s digits) : ∀ c ∈ s, isPadding c = false := by
  intro c member
  rcases grouped.mem c member with digit | rfl
  · exact not_isPadding_of_isDigit digit
  · decide

theorem ZeroFraction.not_isPadding (whole : ZeroFraction s) : ∀ c ∈ s, isPadding c = false := by
  cases whole with
  | none => nofun
  | zeros _ all =>
    refine List.forall_mem_cons.mpr ⟨by decide, fun c member => ?_⟩
    rw [all c member]
    decide

/-- No white space stands inside an integer. -/
theorem Spells.not_isPadding (spells : Spells s n) : ∀ c ∈ s, isPadding c = false := by
  cases spells with
  | zero signed fills _ whole =>
    simp only [List.forall_mem_append]
    exact ⟨signed.not_isPadding, fills.not_isPadding, whole.not_isPadding⟩
  | number signed fills grouped _ _ whole =>
    simp only [List.forall_mem_append]
    refine ⟨signed.not_isPadding, ?_, grouped.not_isPadding, whole.not_isPadding⟩
    exact fills.elim (fun none => none ▸ nofun) Filling.not_isPadding
  | inner signed fills joins grouped _ whole =>
    simp only [List.forall_mem_append, List.forall_mem_cons]
    refine ⟨signed.not_isPadding, fills.not_isPadding, ⟨by decide, ?_, grouped.not_isPadding⟩,
      whole.not_isPadding⟩
    rcases joins with rfl | rfl
    · nofun
    · exact List.forall_mem_singleton.mpr (by decide)

end Padding

end SchemaWeaver.IntegerText
