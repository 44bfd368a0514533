/-!
# White space

The characters that trimming removes, and trimming itself. The set is wider than the ASCII one:
it also holds the four information separators, the next-line control and the space separators
of Unicode. Zero-width characters are not in it.
-/

namespace SchemaWeaver.Text

/-- A character that trimming removes. -/
def isBlank (c : Char) : Bool :=
  let n := c.toNat
  (0x09 ≤ n && n ≤ 0x0D) || (0x1C ≤ n && n ≤ 0x20) || n == 0x85 || n == 0xA0 || n == 0x1680 ||
    (0x2000 ≤ n && n ≤ 0x200A) || n == 0x2028 || n == 0x2029 || n == 0x202F || n == 0x205F ||
    n == 0x3000

/-- Drops blank characters at the end. -/
def dropBlankEnd (s : List Char) : List Char :=
  (s.reverse.dropWhile isBlank).reverse

/-- Drops blank characters at both ends. -/
def trimmed (s : List Char) : List Char :=
  dropBlankEnd (s.dropWhile isBlank)

/-- Drops blank characters at both ends of a text. -/
def trim (s : String) : String :=
  String.ofList (trimmed s.toList)

/-- A text with nothing but blank characters; the empty text is one. -/
def isBlankText (s : String) : Bool :=
  s.toList.all isBlank

private theorem dropWhile_isBlank_eq_nil_iff {s : List Char} :
    s.dropWhile isBlank = [] ↔ s.all isBlank = true := by
  induction s with
  | nil => simp
  | cons c rest ih => by_cases h : isBlank c = true <;> simp [h, ih]

private theorem not_isBlank_of_dropWhile {c : Char} {s rest : List Char}
    (h : s.dropWhile isBlank = c :: rest) : isBlank c = false := by
  have := List.head?_dropWhile_not isBlank s
  simpa [h] using this

theorem trimmed_eq_nil_iff {s : List Char} : trimmed s = [] ↔ s.all isBlank = true := by
  rw [← dropWhile_isBlank_eq_nil_iff, trimmed, dropBlankEnd, List.reverse_eq_nil_iff,
    dropWhile_isBlank_eq_nil_iff, List.all_reverse]
  constructor
  · intro h
    cases hs : s.dropWhile isBlank with
    | nil => rfl
    | cons c rest =>
      rw [hs, List.all_cons, not_isBlank_of_dropWhile hs] at h
      simp at h
  · intro h
    simp [h]

/-- Trimming leaves nothing of a text exactly when the text is blank. -/
theorem trim_eq_empty_iff {s : String} : trim s = "" ↔ isBlankText s = true := by
  rw [isBlankText, ← trimmed_eq_nil_iff, trim]
  constructor
  · intro h
    have := congrArg String.toList h
    simpa using this
  · intro h
    simp [h]

end SchemaWeaver.Text
