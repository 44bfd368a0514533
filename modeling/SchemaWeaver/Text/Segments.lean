import SchemaWeaver.Text.Blank

/-!
# Comma-separated segments

A text such as `Clone, Debug` names several things. Its segments are the maximal comma-free
stretches, trimmed, without the blank ones.
-/

namespace SchemaWeaver.Text

/-- The maximal stretches of a character list that do not hold the separator. There is always at
least one stretch, and joining the stretches with the separator gives the list back. -/
def stretches (separator : Char) : List Char → List (List Char)
  | [] => [[]]
  | c :: rest =>
    if c = separator then [] :: stretches separator rest
    else
      match stretches separator rest with
      | [] => [[c]]
      | first :: others => (c :: first) :: others

theorem stretches_ne_nil (separator : Char) (s : List Char) : stretches separator s ≠ [] := by
  cases s with
  | nil => simp [stretches]
  | cons c rest =>
    unfold stretches
    split
    · simp
    · split <;> simp

/-- The trimmed segments of a text that are not blank, in order. -/
def segments (s : String) : List String :=
  ((stretches ',' s.toList).map (fun stretch => String.ofList (trimmed stretch))).filter (· ≠ "")

/-- Joins texts with a comma and a space between neighbours. -/
def commaJoined (parts : List String) : String :=
  ", ".intercalate parts

theorem commaJoined_singleton (part : String) : commaJoined [part] = part :=
  String.intercalate_singleton

theorem commaJoined_cons_cons (part next : String) (others : List String) :
    commaJoined (part :: next :: others) = part ++ ", " ++ commaJoined (next :: others) :=
  String.intercalate_cons_cons

end SchemaWeaver.Text
