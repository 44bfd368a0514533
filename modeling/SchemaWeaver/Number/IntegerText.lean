import SchemaWeaver.Text.Segments

/-!
# Integers written as text

The plain form of an integer is its decimal digits, after a minus sign when it is negative, without
superfluous zeros. Integers are written in plain form. Reading is more generous: white space may
stand around the integer and a sign before it, zeros may lead it, single underscores may separate
its digits, and a decimal point may follow with nothing but zeros behind it.
-/

namespace SchemaWeaver.IntegerText

open SchemaWeaver.Text

/-- Why a text is refused as an integer. -/
inductive Refusal where
  | malformed
  | tooLong
  deriving DecidableEq, Repr

/-- The most digits that an integer may have. -/
def maxDigits : Nat := 4300

/-- The value of a string of decimal digits. -/
def digitsValue (digits : List Char) : Nat :=
  digits.foldl (fun value c => 10 * value + (c.toNat - '0'.toNat)) 0

/-- The decimal digits of an integer, with a minus sign when it is negative. -/
def digits (n : Int) : List Char :=
  if n < 0 then '-' :: Nat.toDigits 10 n.natAbs else Nat.toDigits 10 n.natAbs

/-- The text of an integer. -/
def write (n : Int) : String := String.ofList (digits n)

/-- Reads the plain form of an integer that is not negative: a zero, or digits that do not start
with one. More digits than are allowed are refused before anything behind them is. -/
def readMagnitude : List Char → Except Refusal Nat
  | ['0'] => .ok 0
  | '0' :: _ => .error .malformed
  | s =>
    let digits := s.takeWhile Char.isDigit
    if maxDigits < digits.length then .error .tooLong
    else if digits.isEmpty || digits.length < s.length then .error .malformed
    else .ok (digitsValue digits)

/-- Reads the plain form of an integer. -/
def readPlain : List Char → Except Refusal Int
  | '-' :: rest => (readMagnitude rest).map fun n => -Int.ofNat n
  | s => (readMagnitude s).map Int.ofNat

/-- White space that may stand around an integer: the blank characters without the information
separators. -/
def isPadding (c : Char) : Bool := isBlank c && !(0x1C ≤ c.toNat && c.toNat ≤ 0x1F)

/-- Drops the white space around an integer. -/
def unpadded (s : List Char) : List Char :=
  ((s.dropWhile isPadding).reverse.dropWhile isPadding).reverse

/-- Splits the sign off a number and tells whether it is a minus. -/
def splitSign : List Char → Bool × List Char
  | '-' :: rest => (true, rest)
  | '+' :: rest => (false, rest)
  | s => (false, s)

/-- What may fill the front of a number: zeros, and underscores behind the first of them. -/
def isFiller (c : Char) : Bool := c == '0' || c == '_'

/-- Drops the filling at the front of a number. What follows it is a digit or a minus sign; when
it is a decimal point, or nothing at all, the last zero of the filling is kept. -/
def dropFilling (s : List Char) : Option (List Char) :=
  let endsInZero := (s.takeWhile isFiller).getLast? == some '0'
  match s with
  | '0' :: _ =>
    match s.dropWhile isFiller with
    | [] => if endsInZero then some ['0'] else none
    | '.' :: rest => if endsInZero then some ('0' :: '.' :: rest) else none
    | c :: rest => if c.isDigit || c == '-' then some (c :: rest) else none
  | c :: _ => if c.isDigit then some s else none
  | [] => none

/-- Drops a decimal point with nothing but zeros, and at least one of them, behind it. -/
def dropZeroFraction (s : List Char) : List Char :=
  match s.dropWhile (· ≠ '.') with
  | _ :: zeros =>
    if !zeros.isEmpty && zeros.all (· == '0') then s.takeWhile (· ≠ '.') else s
  | [] => s

/-- Drops underscores that stand alone between other characters. -/
def ungrouped (s : List Char) : Option (List Char) :=
  let groups := stretches '_' s
  if groups.all fun group => !group.isEmpty then some groups.flatten else none

/-- The plain form of an integer that is written generously. -/
def plainForm? (s : List Char) : Option (List Char) := do
  let (negative, unsigned) := splitSign (unpadded s)
  let magnitude ← ungrouped (dropZeroFraction (← dropFilling unsigned))
  return if negative then '-' :: magnitude else magnitude

/-- Reads an integer from a text. Only the plain form is refused for its length; in any other form
too many digits are as wrong as any other fault. -/
def read (s : String) : Except Refusal Int :=
  match readPlain s.toList with
  | .error .malformed =>
    match (plainForm? s.toList).map readPlain with
    | some (.ok n) => .ok n
    | _ => .error .malformed
  | result => result

end SchemaWeaver.IntegerText
