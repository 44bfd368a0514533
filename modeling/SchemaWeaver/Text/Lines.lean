/-!
# Lines of a text

Files are read with universal newlines, and a place in a text is told by its line and column.
-/

namespace SchemaWeaver.Text

/-- Reads `\r\n` and a lone `\r` as `\n`. -/
def unixNewlines : List Char → List Char
  | [] => []
  | '\r' :: '\n' :: rest => '\n' :: unixNewlines rest
  | c :: rest => (if c = '\r' then '\n' else c) :: unixNewlines rest

/-- Drops one byte order mark at the front. -/
def dropByteOrderMark : List Char → List Char
  | '\uFEFF' :: rest => rest
  | s => s

/-- A place in a text; both numbers start at one. -/
structure Place where
  line : Nat
  column : Nat
  deriving DecidableEq, Repr

/-- The place just after the given characters, counting `\n` as the only line end. -/
def Place.after (before : List Char) : Place where
  line := before.count '\n' + 1
  column := (before.reverse.takeWhile (· ≠ '\n')).length + 1

end SchemaWeaver.Text
