/-!
# Binary floating-point numbers

The numbers of the 64-bit binary format, kept exactly: a finite one is a sign, a significand below
`2 ^ 53` and an exponent of two. A decimal is read as the nearest of them, a tie going to the even
significand; beyond the largest one it is read as an infinity.
-/

namespace SchemaWeaver

/-- A number of the 64-bit binary format. The finite ones have the magnitude
`significand * 2 ^ exponent`, with the exponent `-1074` when the significand is below `2 ^ 52`. -/
inductive Binary64 where
  | nan
  | infinite (negative : Bool)
  | finite (negative : Bool) (significand : Nat) (exponent : Int)
  deriving DecidableEq, Repr

namespace Binary64

/-- The least exponent of a finite number. -/
def minExponent : Int := -1074

/-- The greatest exponent of a finite number. -/
def maxExponent : Int := 971

/-- The quotient of two numbers rounded to the nearest integer, a tie going to the even one. -/
def roundQuotient (num den : Nat) : Nat :=
  let quotient := num / den
  let twice := 2 * (num % den)
  if twice < den || (twice == den && quotient % 2 == 0) then quotient else quotient + 1

/-- The ratio `num / den` divided by `2 ^ exponent`, as numerator and denominator. -/
def unscaled (num den : Nat) (exponent : Int) : Nat × Nat :=
  (num * Nat.pow 2 (-exponent).toNat, den * Nat.pow 2 exponent.toNat)

/-- The exponent at which the ratio `num / den` has a significand of 53 bits, or the least one. -/
def exponentFor (num den : Nat) : Int :=
  let guess : Int := max (Int.ofNat num.log2 - Int.ofNat den.log2 - 52) minExponent
  let (n, d) := unscaled num den guess
  if n / d < Nat.pow 2 52 then max (guess - 1) minExponent else guess

/-- The number nearest to the ratio of two positive numbers. -/
def ofRatio (negative : Bool) (num den : Nat) : Binary64 :=
  let exponent := exponentFor num den
  let (n, d) := unscaled num den exponent
  let rounded := roundQuotient n d
  let (significand, exponent) :=
    if rounded = Nat.pow 2 53 then (Nat.pow 2 52, exponent + 1) else (rounded, exponent)
  if exponent > maxExponent then infinite negative else finite negative significand exponent

/-- The number nearest to `digits * 10 ^ exponent`. Decimals far outside the range of the format
are settled by their exponent alone, so that no huge power is computed. -/
def ofDecimal (negative : Bool) (digits : Nat) (exponent : Int) : Binary64 :=
  if digits = 0 then finite negative 0 minExponent
  else if exponent > 310 then infinite negative
  else if exponent + digits.log2 / 3 + 1 < -330 then finite negative 0 minExponent
  else ofRatio negative (digits * Nat.pow 10 exponent.toNat) (Nat.pow 10 (-exponent).toNat)

/-- The integer that a finite number is, if it is one. -/
def toInt? : Binary64 → Option Int
  | finite negative significand exponent =>
    let divisor := Nat.pow 2 (-exponent).toNat
    if significand % divisor = 0 then
      let magnitude : Int := (significand / divisor * Nat.pow 2 exponent.toNat : Nat)
      some (if negative then -magnitude else magnitude)
    else none
  | _ => none

end Binary64

end SchemaWeaver
