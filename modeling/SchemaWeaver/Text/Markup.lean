/-!
# Text inside console markup

Console markup reads `[name]`, `[/name]`, `[#rgb]` and `[@event]` as tags. Text that is to be
shown as it stands is escaped: a backslash is put before every bracket that would open a tag, and
backslashes just before such a bracket are doubled. A lone backslash at the very end is doubled
too, because it would otherwise join the markup that follows.
-/

namespace SchemaWeaver.Text.Markup

/-- The characters that make a bracket a tag when they follow it. -/
def startsTag (c : Char) : Bool :=
  ('a' ≤ c && c ≤ 'z') || c == '#' || c == '/' || c == '@'

/-- Whether the text after an opening bracket makes that bracket a tag: a character that starts
one, and then a closing bracket before any other opening bracket. -/
def opensTag : List Char → Bool
  | [] => false
  | c :: rest =>
    startsTag c && (rest.dropWhile fun d => d != '[' && d != ']').head? == some ']'

/-- Escapes the tags of a text, where `run` backslashes stand just before it. -/
def escapeTags (run : Nat) : List Char → List Char
  | [] => []
  | '\\' :: rest => '\\' :: escapeTags (run + 1) rest
  | c :: rest =>
    if c = '[' && opensTag rest then
      List.replicate (run + 1) '\\' ++ c :: escapeTags 0 rest
    else c :: escapeTags 0 rest

/-- Doubles a backslash that stands alone at the end. -/
def closeEnd (s : List Char) : List Char :=
  match s.reverse with
  | ['\\'] => s ++ ['\\']
  | '\\' :: c :: _ => if c = '\\' then s else s ++ ['\\']
  | _ => s

/-- The markup that shows a text as it stands. -/
def escape (s : String) : String :=
  String.ofList (closeEnd (escapeTags 0 s.toList))

end SchemaWeaver.Text.Markup
