import SchemaWeaver.Proofs.Text.Literal
import SchemaWeaver.Proofs.Text.Quotes

/-!
# Escapes are undone by reading

Each pass of the escape cuts the text at one character and joins the parts by what is written for
it. Both passes together go over the text once and write character by character, so that texts can
be escaped part by part.

The escaped text leaves its literal open: no double quote in it ends the literal, and it does not
skip the quote behind it. A literal therefore ends at its own closing quote, whatever stands behind.
Reading it gives the text, and only the escaped text is read as this text.
-/

namespace SchemaWeaver.Text.Literal

/-- Undoes the escapes in the body of a literal. A body stands for no text when it has a double
quote that is not escaped, a backslash before another character, or a single backslash at its
end. -/
def decode? : List Char → Option (List Char)
  | [] => some []
  | '"' :: _ => none
  | ['\\'] => none
  | '\\' :: c :: rest => if c = '\\' ∨ c = '"' then (decode? rest).map (c :: ·) else none
  | c :: rest => (decode? rest).map (c :: ·)

/-- The text for which the body of a literal stands. -/
def unescape? (body : String) : Option String := (decode? body.toList).map String.ofList

section Passes

/-- A pass puts its replacement for the breaks where its character cuts the text. -/
theorem substitute_eq_intercalate (target : Char) (replacement s : List Char) :
    substitute target replacement s = replacement.intercalate (s.splitOn target) := by
  induction s with
  | nil => simp
  | cons c s ih =>
    have nonempty : s.splitOn target ≠ [] := List.splitOn_ne_nil target s
    rw [substitute_cons, ih, List.splitOn_cons_eq_if_modifyHead]
    by_cases here : c = target
    · rw [if_pos here, if_pos (beq_iff_eq.mpr here), List.intercalate_cons_of_ne_nil nonempty,
        List.nil_append]
    · rw [if_neg here, if_neg (mt beq_iff_eq.mp here)]
      -- The character goes in front of the first part.
      obtain ⟨first, others, cut⟩ := List.exists_cons_of_ne_nil nonempty
      rw [cut]
      cases others <;> simp

/-- The passes one after the other: first at the backslashes, then at the double quotes. -/
theorem encode_eq_passes (s : List Char) : encode s =
    ['\\', '"'].intercalate ((['\\', '\\'].intercalate (s.splitOn '\\')).splitOn '"') := by
  rw [encode, substitute_eq_intercalate, substitute_eq_intercalate]

theorem encode_append (s t : List Char) : encode (s ++ t) = encode s ++ encode t := by
  rw [encode, substitute_append, substitute_append, encode, encode]

theorem escape_append (s t : String) : escape (s ++ t) = escape s ++ escape t := by
  rw [escape, String.toList_append, encode_append, String.ofList_append, escape, escape]

end Passes

section Closing

theorem close?_encodeChar (c : Char) (rest : List Char) :
    close? (encodeChar c ++ rest) =
      (close? rest).map fun (inside, behind) => (encodeChar c ++ inside, behind) := by
  by_cases special : c = '\\' ∨ c = '"'
  · rw [encodeChar, if_pos special]
    rfl
  · obtain ⟨backslash, quote⟩ := not_or.mp special
    rw [encodeChar, if_neg special]
    exact close?_cons_of_ne quote backslash

/-- The scan for the closing quote passes over all that is written for a text. -/
theorem close?_encode (s tail : List Char) :
    close? (encode s ++ '"' :: tail) = some (encode s, tail) := by
  induction s with
  | nil => rfl
  | cons c s ih =>
    rw [encode_cons, List.append_assoc, close?_encodeChar, ih]
    rfl

theorem not_hasOpenQuote_encode (s : List Char) : ¬ HasOpenQuote (encode s) :=
  ((close?_iff (encode s) []).mp (close?_encode s [])).1

theorem even_backslashesAtEnd_encode (s : List Char) : Even (backslashesAtEnd (encode s)) :=
  ((close?_iff (encode s) []).mp (close?_encode s [])).2

theorem first?_escape (text tail : String) :
    first? ("\"" ++ escape text ++ "\"" ++ tail).toList =
      some ((escape text).toList, tail.toList) := by
  have spelled : ("\"" ++ escape text ++ "\"" ++ tail).toList =
      '"' :: (encode text.toList ++ '"' :: tail.toList) := by
    simp [escape]
  rw [spelled, first?, List.dropWhile_cons_of_neg (by decide), List.tail_cons, close?_encode,
    escape, String.toList_ofList]

end Closing

section Reading

variable {c : Char} {rest body s : List Char}

theorem decode?_cons_of_ne (quote : c ≠ '"') (backslash : c ≠ '\\') :
    decode? (c :: rest) = (decode? rest).map (c :: ·) := by
  rw [decode?]
  · exact quote
  · exact fun h => absurd h backslash
  · exact fun _ _ h => absurd h backslash

/-- To read a literal is to look for its end and to undo the escapes in front of it. -/
theorem read?_eq_bind (line : List Char) : read? line =
    (close? line).bind fun (inside, behind) => (decode? inside).map fun text => (text, behind) := by
  fun_induction read? line with
  | case1 => rfl
  | case2 rest => rfl
  | case3 => rfl
  | case4 c rest escaped ih =>
    rw [ih, close?]
    cases close? rest with
    | none => rfl
    | some found => simp [decode?, escaped, Function.comp_def]
  | case5 c rest foreign =>
    rw [close?]
    cases close? rest with
    | none => rfl
    | some found => simp [decode?, foreign]
  | case6 c rest quote single pair ih =>
    have backslash : c ≠ '\\' := ne_backslash_of_alone single pair
    rw [ih, close?_cons_of_ne quote backslash]
    cases close? rest with
    | none => rfl
    | some found => simp [decode?_cons_of_ne quote backslash, Function.comp_def]

/-- Undoing the escapes of what is written for a text gives the text. -/
theorem decode?_encode (s : List Char) : decode? (encode s) = some s := by
  have read : read? (encode s ++ ['"']) = some (s, []) := read?_encode s []
  rw [read?_eq_bind, close?_encode, Option.bind_some, Option.map_eq_some_iff] at read
  obtain ⟨text, undone, same⟩ := read
  rw [undone, (Prod.mk.inj same).1]

theorem eq_encode_of_decode? (h : decode? body = some s) : body = encode s := by
  fun_induction decode? body generalizing s with
  | case1 =>
    cases h
    rfl
  | case2 => cases h
  | case3 => cases h
  | case4 c rest escaped ih =>
    obtain ⟨text, undone, rfl⟩ := Option.map_eq_some_iff.mp h
    rw [encode_cons, encodeChar, if_pos escaped, ih undone]
    rfl
  | case5 => cases h
  | case6 c rest quote single pair ih =>
    obtain ⟨text, undone, rfl⟩ := Option.map_eq_some_iff.mp h
    have plain : ¬ (c = '\\' ∨ c = '"') := not_or.mpr ⟨ne_backslash_of_alone single pair, quote⟩
    rw [encode_cons, encodeChar, if_neg plain, ih undone]
    rfl

/-- A body stands for a text exactly when it is what is written for the text. -/
theorem unescape?_eq_some_iff {body text : String} :
    unescape? body = some text ↔ body = escape text := by
  rw [unescape?, Option.map_eq_some_iff]
  constructor
  · rintro ⟨s, undone, rfl⟩
    rw [escape, String.toList_ofList, ← eq_encode_of_decode? undone, String.ofList_toList]
  · rintro rfl
    refine ⟨text.toList, ?_, String.ofList_toList⟩
    rw [escape, String.toList_ofList, decode?_encode]

end Reading

/-- What escaping does to a text. Its two passes, each of them a cut at one character with the parts
joined by what is written for it, are one pass that writes every character on its own, with a
backslash before each backslash and double quote. Texts can thus be escaped part by part. The text
is read back from what is written, and from nothing else. What is written has an odd number of
backslashes right before each of its double quotes and an even number at its end, so that between
quotes, and in front of whatever follows, the first quote that is not escaped is the closing one. -/
theorem escape_undone_by_reading (text : String) :
    (escape text).toList = ['\\', '"'].intercalate
      ((['\\', '\\'].intercalate (text.toList.splitOn '\\')).splitOn '"') ∧
    (escape text).toList = text.toList.flatMap encodeChar ∧
    (∀ more, escape (text ++ more) = escape text ++ escape more) ∧
    (∀ body, unescape? body = some text ↔ body = escape text) ∧
    ¬ HasOpenQuote (escape text).toList ∧
    Even (backslashesAtEnd (escape text).toList) ∧
    ∀ tail, first? ("\"" ++ escape text ++ "\"" ++ tail).toList =
      some ((escape text).toList, tail.toList) := by
  have chars : (escape text).toList = encode text.toList := String.toList_ofList
  rw [chars]
  refine ⟨encode_eq_passes text.toList, encode_eq_flatMap text.toList, escape_append text,
    fun _ => unescape?_eq_some_iff, not_hasOpenQuote_encode text.toList,
    even_backslashesAtEnd_encode text.toList, fun tail => ?_⟩
  rw [first?_escape, chars]

example : escape "use \"new\" \\ old" = "use \\\"new\\\" \\\\ old" := by decide

end SchemaWeaver.Text.Literal
