import SchemaWeaver.Number.Binary64

/-!
# Shortest decimal text of a binary number

A binary number is shown with the fewest decimal digits that read back as the same number, and of
those the nearest ones. The digits are found by trying 1, 2, … 17 places: on each decimal grid only
the two neighbours of the value can qualify.
-/

namespace SchemaWeaver.Binary64

/-- The fraction `n * 2 ^ q * 10 ^ p`, as numerator and denominator. -/
def fraction (n : Nat) (q p : Int) : Nat × Nat :=
  (n * Nat.pow 2 q.toNat * Nat.pow 10 p.toNat, Nat.pow 2 (-q).toNat * Nat.pow 10 (-p).toNat)

/-- The order of fractions. -/
def fractionLe (a b : Nat × Nat) : Bool :=
  a.1 * b.2 ≤ b.1 * a.2

/-- A decimal `digits * 10 ^ exponent`. -/
structure Decimal where
  digits : Nat
  exponent : Int
  deriving DecidableEq, Repr

/-- Whether a decimal reads back as `significand * 2 ^ exponent`: it lies between the midpoints to
the neighbouring numbers, the ends included when the significand is even. -/
def readsBack (significand : Nat) (exponent : Int) (d : Decimal) : Bool :=
  let below := if significand = Nat.pow 2 52 && exponent > minExponent then 1 else 2
  let low := fraction (4 * significand - below) (exponent - 2) 0
  let high := fraction (4 * significand + 2) (exponent - 2) 0
  let value := fraction d.digits 0 d.exponent
  if significand % 2 = 0 then fractionLe low value && fractionLe value high
  else !fractionLe value low && !fractionLe high value

/-- The number of decimal digits of a positive number. -/
def digitCount (n : Nat) : Nat := (Nat.toDigits 10 n).length

/-- The power of ten of the leading digit of a positive fraction. -/
def leadingPower (value : Nat × Nat) : Int :=
  let (num, den) := value
  if den ≤ num then Int.ofNat (digitCount (num / den)) - 1
  else
    let count := digitCount (den / num)
    if den ≤ num * Nat.pow 10 (count - 1) then 1 - Int.ofNat count else -Int.ofNat count

/-- The two neighbours of `significand * 2 ^ exponent` among the multiples of `10 ^ p`, the nearer
one first; a tie goes to the even multiple. -/
def neighbours (significand : Nat) (exponent p : Int) : List Decimal :=
  let (num, den) := fraction significand exponent (-p)
  let lower := num / den
  let twice := 2 * (num % den)
  if twice < den || (twice == den && lower % 2 == 0) then [⟨lower, p⟩, ⟨lower + 1, p⟩]
  else [⟨lower + 1, p⟩, ⟨lower, p⟩]

/-- The decimal with the fewest digits that reads back as a positive number. Seventeen digits
always suffice. -/
def shortest (significand : Nat) (exponent : Int) : Decimal :=
  let top := leadingPower (fraction significand exponent 0)
  let grid (places : Nat) := neighbours significand exponent (top + 1 - Int.ofNat places)
  let found := (List.range 17).findSome? fun i =>
    (grid (i + 1)).find? (readsBack significand exponent)
  found.getD ⟨significand, 0⟩

/-- Drops zeros at the end of a digit string. -/
def dropTrailingZeros (digits : List Char) : List Char :=
  (digits.reverse.dropWhile (· == '0')).reverse

/-- Writes a digit string whose decimal point stands after its first `point` digits: positionally
for points from `-3` to `16`, else with an exponent of at least two digits. -/
def placePoint (digits : List Char) (point : Int) : List Char :=
  let count : Int := digits.length
  if -3 ≤ point && point ≤ 16 then
    if point ≤ 0 then '0' :: '.' :: List.replicate (-point).toNat '0' ++ digits
    else if count ≤ point then digits ++ List.replicate (point - count).toNat '0' ++ ['.', '0']
    else digits.take point.toNat ++ '.' :: digits.drop point.toNat
  else
    let power := point - 1
    let fractional := digits.drop 1
    let powerDigits := Nat.toDigits 10 power.natAbs
    digits.take 1 ++ (if fractional.isEmpty then [] else '.' :: fractional) ++
      ['e', if power < 0 then '-' else '+'] ++
      (if powerDigits.length < 2 then '0' :: powerDigits else powerDigits)

/-- The shortest text that reads back as the number. -/
def display : Binary64 → String
  | nan => "nan"
  | infinite negative => if negative then "-inf" else "inf"
  | finite negative significand exponent =>
    let body :=
      if significand = 0 then ['0', '.', '0']
      else
        let d := shortest significand exponent
        let all := Nat.toDigits 10 d.digits
        placePoint (dropTrailingZeros all) (d.exponent + Int.ofNat all.length)
    String.ofList (if negative then '-' :: body else body)

end SchemaWeaver.Binary64
