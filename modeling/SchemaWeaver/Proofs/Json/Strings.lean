import SchemaWeaver.Json.Printer
import SchemaWeaver.Json.Reader

/-!
# Strings in documents

A string that is written is read back, whatever characters it has. The reader works on code units:
an escape stands for one unit, and so does every character that is not escaped. No character is half
of a pair, so the units of a text are joined to the same text again.
-/

namespace SchemaWeaver.Json

open SchemaWeaver.Text

theorem not_isHighUnit (c : Char) : isHighUnit c.toNat = false := by
  have valid : c.toNat < 0xD800 ∨ (0xDFFF < c.toNat ∧ c.toNat < 0x110000) := c.valid
  simp only [isHighUnit, Bool.and_eq_false_iff, decide_eq_false_iff_not]
  omega

theorem not_isLowUnit (c : Char) : isLowUnit c.toNat = false := by
  have valid : c.toNat < 0xD800 ∨ (0xDFFF < c.toNat ∧ c.toNat < 0x110000) := c.valid
  simp only [isLowUnit, Bool.and_eq_false_iff, decide_eq_false_iff_not]
  omega

theorem unitChar_toNat (c : Char) : unitChar c.toNat = c := by
  rw [unitChar, not_isHighUnit, not_isLowUnit]
  exact Char.ofNat_toNat c

/-- The characters of a text are joined to the same text. -/
theorem joinUnits_toNat (text : List Char) : joinUnits (text.map Char.toNat) = text := by
  induction text with
  | nil => rfl
  | cons c rest ih =>
    cases rest with
    | nil => exact congrArg (· :: []) (unitChar_toNat c)
    | cons d rest =>
      rw [List.map_cons, List.map_cons, joinUnits, not_isHighUnit, Bool.false_and,
        if_neg Bool.false_ne_true, unitChar_toNat, ← List.map_cons, ih]

theorem hexValue?_hexDigit : ∀ d, d < 16 → hexValue? (Quoted.hexDigit d) = some d := by decide

/-- Four hexadecimal digits are written for one unit, and stand for this unit. -/
theorem hexDigits_four {n : Nat} (small : n < 0x10000) :
    ∃ a b c d, Quoted.hexDigits 4 n = [a, b, c, d] ∧ hexQuad? a b c d = some n := by
  refine ⟨_, _, _, _, rfl, ?_⟩
  have digit (i : Nat) : hexValue? (Quoted.hexDigit (n / Nat.pow 16 i % 16)) =
      some (n / Nat.pow 16 i % 16) :=
    hexValue?_hexDigit _ (Nat.mod_lt _ (by decide))
  have value : ((n / 4096 % 16 * 16 + n / 256 % 16) * 16 + n / 16 % 16) * 16 + n / 1 % 16 = n := by
    omega
  simp only [hexQuad?, digit, Option.bind_eq_bind, Option.bind_some, Option.pure_def]
  exact congrArg some value

/-- A character that needs no escape stands for itself. -/
theorem readUnits_plain (opening : List Char) {c : Char} (quote : c ≠ '"') (backslash : c ≠ '\\')
    (printable : 0x20 ≤ c.toNat) (rest : List Char) :
    readUnits opening (c :: rest) =
      (readUnits opening rest).map fun (units, r) => (c.toNat :: units, r) := by
  have notControl : ¬c.toNat ≤ 0x1F := by omega
  rw [readUnits, if_neg notControl]
  · exact quote
  · exact fun h _ => backslash h
  · exact fun _ _ _ _ _ _ h _ => backslash h
  · exact fun _ _ h _ => backslash h

/-- One character of a string is read as one unit. -/
theorem readUnits_escapeChar (opening : List Char) (c next : Char) (rest : List Char) :
    readUnits opening (escapeChar c ++ next :: rest) =
      (readUnits opening (next :: rest)).map fun (units, r) => (c.toNat :: units, r) := by
  unfold escapeChar
  split
  · subst_vars; rfl
  split
  · subst_vars; rfl
  split
  · subst_vars; rfl
  split
  · subst_vars; rfl
  split
  · subst_vars; rfl
  split
  · subst_vars; rfl
  split
  · subst_vars; rfl
  split
  · rename_i control
    obtain ⟨w, x, y, z, digits, value⟩ := hexDigits_four (n := c.toNat) (by omega)
    rw [digits]
    simp only [List.cons_append, List.nil_append, readUnits, value]
  · rename_i quote backslash _ _ _ _ _ printable
    exact readUnits_plain opening quote backslash (Nat.not_lt.mp printable) (next :: rest)

/-- A string is read up to its closing quote, whatever follows. -/
theorem readUnits_escaped (opening text rest : List Char) :
    readUnits opening (text.flatMap escapeChar ++ '"' :: rest) =
      .ok (text.map Char.toNat, rest) := by
  induction text with
  | nil => rfl
  | cons c text ih =>
    obtain ⟨next, more, split⟩ : ∃ next more,
        text.flatMap escapeChar ++ '"' :: rest = next :: more :=
      List.exists_cons_of_ne_nil (by simp)
    rw [List.flatMap_cons, List.append_assoc, split, readUnits_escapeChar, ← split, ih]
    rfl

/-- A string that is written is read back. -/
theorem readString_writeString (opening : List Char) (text : String) (rest : List Char) :
    ∃ body, writeString text ++ rest = '"' :: body ∧
      readString opening body = .ok (text, rest) := by
  refine ⟨text.toList.flatMap escapeChar ++ '"' :: rest, by simp [writeString], ?_⟩
  rw [readString, readUnits_escaped]
  simp only [Except.map, joinUnits_toNat, String.ofList_toList]

theorem carriageReturn_notMem_escapeChar (c : Char) : '\r' ∉ escapeChar c := by
  have control : ∀ n, n < 0x20 → '\r' ∉ '\\' :: 'u' :: Quoted.hexDigits 4 n := by decide
  unfold escapeChar
  split
  · decide
  split
  · decide
  split
  · decide
  split
  · decide
  rename_i notReturn
  split
  · decide
  split
  · decide
  split
  · decide
  split
  · exact control c.toNat ‹_›
  · exact fun member => notReturn (List.mem_singleton.mp member).symm

/-- No string is written with a carriage return inside. -/
theorem carriageReturn_notMem_writeString (text : String) : '\r' ∉ writeString text := by
  simp [writeString, carriageReturn_notMem_escapeChar]

end SchemaWeaver.Json
