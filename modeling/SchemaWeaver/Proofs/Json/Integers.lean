import SchemaWeaver.Json.Printer
import SchemaWeaver.Json.Reader

/-!
# Integers in documents

An integer is written in plain form and read back, as long as it does not have more digits than the
reader converts. Conversely the reader never gives an integer with more digits than that.
-/

namespace SchemaWeaver.Json

/-- An integer that the reader is willing to convert. -/
def Convertible (n : Int) : Prop := (Nat.toDigits 10 n.natAbs).length ≤ maxIntegerDigits

/-- What may follow a value inside a document: a comma, a line end, or nothing. -/
def Delimited (rest : List Char) : Prop := ∀ c, rest.head? = some c → c = ',' ∨ c = '\n'

theorem isDigit_of_mem_toDigits {n : Nat} {c : Char} (h : c ∈ Nat.toDigits 10 n) :
    c.isDigit = true :=
  Nat.isDigit_of_mem_toDigits (by decide) (by decide) h

/-- The digits of a positive number do not start with a zero. -/
theorem toDigits_of_pos {n : Nat} (pos : 0 < n) :
    ∃ first others, Nat.toDigits 10 n = first :: others ∧ first ≠ '0' := by
  have nonzero : ∀ d, d < 10 → 0 < d → d.digitChar ≠ '0' := by decide
  induction n using Nat.strongRecOn with
  | ind n ih =>
    by_cases small : n < 10
    · exact ⟨n.digitChar, [], Nat.toDigits_of_lt_base small, nonzero n small pos⟩
    · obtain ⟨first, others, digits, nonzero⟩ := ih (n / 10) (by omega) (by omega)
      refine ⟨first, others ++ [(n % 10).digitChar], ?_, nonzero⟩
      rw [Nat.toDigits_of_base_le (by decide) (Nat.le_of_not_lt small), digits, List.cons_append]

theorem digitsValue_toDigits (n : Nat) : IntegerText.digitsValue (Nat.toDigits 10 n) = n :=
  Nat.ofDigitChars_ten_toDigits

theorem digitsValue_lt {digits : List Char} (all : ∀ c ∈ digits, c.isDigit = true) :
    IntegerText.digitsValue digits < Nat.pow 10 digits.length := by
  have general : ∀ start, Nat.ofDigitChars 10 digits start < 10 ^ digits.length * (start + 1) := by
    induction digits with
    | nil => intro start; simp
    | cons c rest ih =>
      intro start
      have digit : c.toNat - '0'.toNat ≤ 9 := by
        have := all c (List.mem_cons_self ..)
        simp only [Char.isDigit, Bool.and_eq_true, decide_eq_true_eq] at this
        have upper : c.toNat ≤ 57 := this.2
        change c.toNat - 48 ≤ 9
        omega
      have smaller := ih (fun d member => all d (List.mem_cons_of_mem c member))
        (10 * start + (c.toNat - '0'.toNat))
      rw [Nat.ofDigitChars_cons]
      calc _ < 10 ^ rest.length * (10 * start + (c.toNat - '0'.toNat) + 1) := smaller
        _ ≤ 10 ^ rest.length * (10 * (start + 1)) := Nat.mul_le_mul_left _ (by omega)
        _ = 10 ^ (c :: rest).length * (start + 1) := by
          rw [List.length_cons, Nat.pow_succ, Nat.mul_assoc]
  calc IntegerText.digitsValue digits < 10 ^ digits.length * (0 + 1) := general 0
    _ = 10 ^ digits.length := Nat.mul_one _

/-- The number that digits stand for is written with no more digits. -/
theorem length_toDigits_digitsValue {digits : List Char} (all : ∀ c ∈ digits, c.isDigit = true)
    {bound : Nat} (pos : 0 < bound) (short : digits.length ≤ bound) :
    (Nat.toDigits 10 (IntegerText.digitsValue digits)).length ≤ bound := by
  rw [Nat.length_toDigits_le_iff (by decide) pos]
  exact Nat.lt_of_lt_of_le (digitsValue_lt all) (Nat.pow_le_pow_right (by decide) short)

theorem takeWhile_isDigit_append {digits rest : List Char} (all : ∀ c ∈ digits, c.isDigit = true)
    (delimited : Delimited rest) :
    (digits ++ rest).takeWhile Char.isDigit = digits ∧
      (digits ++ rest).dropWhile Char.isDigit = rest := by
  have stop : rest.takeWhile Char.isDigit = [] ∧ rest.dropWhile Char.isDigit = rest := by
    cases rest with
    | nil => exact ⟨rfl, rfl⟩
    | cons c rest =>
      rcases delimited c rfl with rfl | rfl
      · exact ⟨rfl, rfl⟩
      · exact ⟨rfl, rfl⟩
  rw [List.takeWhile_append_of_pos all, List.dropWhile_append_of_pos all, stop.1, stop.2]
  exact ⟨List.append_nil digits, rfl⟩

theorem readWhole_toDigits (n : Nat) {rest : List Char} (delimited : Delimited rest) :
    readWhole (Nat.toDigits 10 n ++ rest) = (Nat.toDigits 10 n, rest) := by
  rcases Nat.eq_zero_or_pos n with rfl | pos
  · rfl
  · have parts := takeWhile_isDigit_append (fun c => isDigit_of_mem_toDigits (n := n)) delimited
    obtain ⟨first, others, digits, nonzero⟩ := toDigits_of_pos pos
    rw [digits] at parts ⊢
    rw [List.cons_append, readWhole, ← List.cons_append, parts.1, parts.2]
    exact fun _ same => nonzero (List.cons.inj same).1

/-- An integer that is written starts with a digit, after the sign if there is one. -/
theorem digits_cases (n : Int) : ∃ first others, first.isDigit = true ∧
    (IntegerText.digits n = first :: others ∨ IntegerText.digits n = '-' :: first :: others) := by
  obtain ⟨first, others, digits⟩ :=
    List.exists_cons_of_ne_nil (Nat.toDigits_ne_nil (n := n.natAbs) (b := 10))
  refine ⟨first, others, isDigit_of_mem_toDigits (digits ▸ List.mem_cons_self ..), ?_⟩
  rw [IntegerText.digits, digits]
  split
  · exact .inr rfl
  · exact .inl rfl

/-- An integer that is written is none of the words that are values. -/
theorem readWord?_digits (n : Int) (rest : List Char) :
    readWord? (IntegerText.digits n ++ rest) = none := by
  have notLetter {c : Char} (digit : c.isDigit = true) :
      c ≠ 'n' ∧ c ≠ 't' ∧ c ≠ 'f' ∧ c ≠ 'N' ∧ c ≠ 'I' ∧ c ≠ '-' := by
    refine ⟨?_, ?_, ?_, ?_, ?_, ?_⟩
    all_goals
      rintro rfl
      exact absurd digit (by decide)
  obtain ⟨first, others, digit, written | written⟩ := digits_cases n
  · rw [written, List.cons_append]
    simp [readWord?, notLetter digit]
  · rw [written, List.cons_append, List.cons_append]
    simp [readWord?, notLetter digit]

/-- No number goes on behind its digits. -/
theorem readFraction_delimited {rest : List Char} (delimited : Delimited rest) :
    readFraction rest = ([], rest) := by
  cases rest with
  | nil => rfl
  | cons c rest =>
    rcases delimited c rfl with rfl | rfl
    · rfl
    · rfl

theorem readExponent_delimited {rest : List Char} (delimited : Delimited rest) :
    readExponent rest = (none, rest) := by
  cases rest with
  | nil => rfl
  | cons c rest =>
    rcases delimited c rfl with rfl | rfl
    · rfl
    · rfl

/-- An integer that is written is read back as a number, unless it has too many digits. -/
theorem readNumber_written (n : Int) {rest : List Char} (delimited : Delimited rest) :
    readNumber (IntegerText.digits n ++ rest) =
      if (Nat.toDigits 10 n.natAbs).length > maxIntegerDigits then .error (.beyond .integerDigits)
      else .ok (.int n, rest) := by
  have whole := readWhole_toDigits n.natAbs delimited
  have value := digitsValue_toDigits n.natAbs
  have digit (c : Char) : c ∈ Nat.toDigits 10 n.natAbs → c.isDigit = true := isDigit_of_mem_toDigits
  unfold IntegerText.digits
  obtain ⟨first, others, digits⟩ := List.exists_cons_of_ne_nil (Nat.toDigits_ne_nil (n := n.natAbs))
  rw [digits] at whole value digit ⊢
  rw [List.cons_append] at whole
  by_cases negative : n < 0
  · have same : -(n.natAbs : Int) = n := by omega
    rw [if_pos negative]
    simp only [readNumber, List.cons_append, whole, readFraction_delimited delimited,
      readExponent_delimited delimited, List.isEmpty_nil, Option.isNone_none, Bool.and_self,
      value, if_true, same]
  · have same : (n.natAbs : Int) = n := by omega
    have noSign : first ≠ '-' := by
      rintro rfl
      exact absurd (digit '-' (List.mem_cons_self ..)) (by decide)
    rw [if_neg negative, List.cons_append]
    unfold readNumber
    split
    rename_i minus body sign
    split at sign
    · exact absurd (List.cons.inj ‹_›).1 noSign
    · cases sign
      simp only [whole, readFraction_delimited delimited, readExponent_delimited delimited,
        List.isEmpty_nil, Option.isNone_none, Bool.and_self, value, if_true, Bool.false_eq_true,
        if_false, same]

theorem readNumber_digits {n : Int} (convertible : Convertible n) {rest : List Char}
    (delimited : Delimited rest) :
    readNumber (IntegerText.digits n ++ rest) = .ok (.int n, rest) := by
  rw [readNumber_written n delimited, if_neg (Nat.not_lt.mpr convertible)]

theorem isDigit_of_mem_readWhole {s : List Char} {c : Char} (h : c ∈ (readWhole s).1) :
    c.isDigit = true := by
  unfold readWhole at h
  split at h
  · exact List.mem_singleton.mp h ▸ rfl
  · exact List.all_eq_true.mp List.all_takeWhile c h

/-- No integer that the reader gives has too many digits. -/
theorem convertible_of_readNumber {s rest : List Char} {n : Int}
    (read : readNumber s = .ok (.int n, rest)) : Convertible n := by
  unfold readNumber at read
  split at read
  rename_i negative body _
  dsimp only at read
  have digits (c : Char) : c ∈ (readWhole body).1 → c.isDigit = true := isDigit_of_mem_readWhole
  split at read
  · cases read
  rename_i whole afterWhole _ parts
  rw [parts] at digits
  split at read
  · split at read
    · cases read
    · rename_i short
      have bound := length_toDigits_digitsValue digits (by decide) (Nat.le_of_not_lt short)
      cases read
      cases negative
      · exact bound
      · rw [Convertible, if_pos rfl, Int.natAbs_neg]
        exact bound
  · cases read

end SchemaWeaver.Json
