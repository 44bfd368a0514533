/-!
# String literals

Text inside a double-quoted literal is written with a backslash before every backslash and every
double quote. Writing runs in two passes: backslashes are doubled first, so that the backslashes
which the second pass puts before the quotes stay single.
-/

namespace SchemaWeaver.Text.Literal

/-- Writes `replacement` for every occurrence of one character. -/
def substitute (target : Char) (replacement : List Char) (s : List Char) : List Char :=
  s.flatMap fun c => if c = target then replacement else [c]

@[simp] theorem substitute_nil (target : Char) (replacement : List Char) :
    substitute target replacement [] = [] := rfl

@[simp] theorem substitute_cons (target c : Char) (replacement s : List Char) :
    substitute target replacement (c :: s) =
      (if c = target then replacement else [c]) ++ substitute target replacement s := rfl

@[simp] theorem substitute_append (target : Char) (replacement s t : List Char) :
    substitute target replacement (s ++ t) =
      substitute target replacement s ++ substitute target replacement t := by
  simp [substitute]

/-- The body of the literal that stands for a character list. -/
def encode (s : List Char) : List Char :=
  substitute '"' ['\\', '"'] (substitute '\\' ['\\', '\\'] s)

/-- The body of the literal that stands for a text. -/
def escape (s : String) : String :=
  String.ofList (encode s.toList)

end SchemaWeaver.Text.Literal
