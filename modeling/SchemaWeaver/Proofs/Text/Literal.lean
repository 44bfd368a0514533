import SchemaWeaver.Text.Literal

/-!
# Reading literals

A literal is read up to the first double quote that no backslash stands before; of a backslash and
the backslash or double quote behind it the second one is meant. What is written into a literal is
read back from it, and the reading ends at the quote that closes the literal, whatever the text says
and whatever stands behind the literal.
-/

namespace SchemaWeaver.Text.Literal

/-- What is written for one character. -/
def encodeChar (c : Char) : List Char := if c = '\\' ∨ c = '"' then ['\\', c] else [c]

/-- Both passes together write character by character. -/
theorem encode_eq_flatMap (s : List Char) : encode s = s.flatMap encodeChar := by
  rw [encode, substitute, substitute, List.flatMap_assoc]
  refine congrArg (List.flatMap · s) (funext fun c => ?_)
  by_cases backslash : c = '\\'
  · subst backslash
    rfl
  · by_cases quote : c = '"'
    · subst quote
      rfl
    · simp [encodeChar, backslash, quote]

theorem encode_cons (c : Char) (s : List Char) : encode (c :: s) = encodeChar c ++ encode s := by
  rw [encode_eq_flatMap, encode_eq_flatMap, List.flatMap_cons]

/-- Reads a literal from behind its opening quote: the text and what is left behind the closing
quote. A literal that does not end, or in which a backslash stands before another character, is not
read. -/
def read? : List Char → Option (List Char × List Char)
  | [] => none
  | '"' :: rest => some ([], rest)
  | ['\\'] => none
  | '\\' :: c :: rest =>
    if c = '\\' ∨ c = '"' then (read? rest).map fun (text, tail) => (c :: text, tail) else none
  | c :: rest => (read? rest).map fun (text, tail) => (c :: text, tail)

/-- What is left behind a literal is shorter. -/
theorem length_of_read? {s text tail : List Char} (h : read? s = some (text, tail)) :
    tail.length < s.length := by
  fun_induction read? s generalizing text with
  | case1 => cases h
  | case2 rest =>
    cases h
    exact Nat.lt_succ_self _
  | case3 => cases h
  | case4 c rest escaped ih =>
    obtain ⟨⟨text', tail'⟩, found, same⟩ := Option.map_eq_some_iff.mp h
    cases same
    exact Nat.lt_succ_of_lt (Nat.lt_succ_of_lt (ih found))
  | case5 => cases h
  | case6 c rest quote single pair ih =>
    obtain ⟨⟨text', tail'⟩, found, same⟩ := Option.map_eq_some_iff.mp h
    cases same
    exact Nat.lt_succ_of_lt (ih found)

theorem read?_cons_of_ne {c : Char} {rest : List Char} (quote : c ≠ '"') (backslash : c ≠ '\\') :
    read? (c :: rest) = (read? rest).map fun (text, tail) => (c :: text, tail) := by
  rw [read?]
  · exact quote
  · exact fun h => absurd h backslash
  · exact fun _ _ h => absurd h backslash

theorem read?_encodeChar (c : Char) (rest : List Char) :
    read? (encodeChar c ++ rest) = (read? rest).map fun (text, tail) => (c :: text, tail) := by
  by_cases special : c = '\\' ∨ c = '"'
  · rw [encodeChar, if_pos special]
    exact if_pos special
  · rw [encodeChar, if_neg special]
    obtain ⟨backslash, quote⟩ := not_or.mp special
    exact read?_cons_of_ne quote backslash

/-- What is written into a literal is read back, up to the closing quote. -/
theorem read?_encode (s tail : List Char) : read? (encode s ++ '"' :: tail) = some (s, tail) := by
  induction s with
  | nil => rfl
  | cons c s ih =>
    rw [encode_cons, List.append_assoc, read?_encodeChar, ih]
    rfl

theorem read?_escape (text : String) (tail : List Char) :
    read? ((escape text).toList ++ '"' :: tail) = some (text.toList, tail) := by
  rw [escape, String.toList_ofList, read?_encode]

/-- A text can be told from what is written for it. -/
theorem escape_injective {s t : String} (same : escape s = escape t) : s = t := by
  have read := read?_escape s []
  rw [same, read?_escape t []] at read
  exact (String.toList_inj.mp (Prod.mk.inj (Option.some.inj read)).1).symm

end SchemaWeaver.Text.Literal
