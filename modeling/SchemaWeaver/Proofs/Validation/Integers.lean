import Mathlib.Algebra.Order.Field.Rat
import Mathlib.Tactic.FieldSimp
import Mathlib.Tactic.Ring
import SchemaWeaver.Proofs.Number.Reading
import SchemaWeaver.Proofs.Validation.Scalar

/-!
# What counts as an integer

An integer may be given as a number, as a flag, as a binary number without a fraction, or as a text
that spells it. `integer_eq_valid_iff` says that a value passes as an integer exactly when it is
given in one of these ways, and `natural_eq_valid_iff` that a natural number is one that is not
negative.
-/

namespace SchemaWeaver

namespace Binary64

/-- The number that a finite binary number is. -/
def value? : Binary64 → Option ℚ
  | finite negative significand exponent =>
    some ((if negative then -1 else 1) * (significand * 2 ^ exponent))
  | _ => none

variable {significand : Nat} {exponent : Int}

theorem two_zpow_eq (exponent : Int) :
    (2 : ℚ) ^ exponent * 2 ^ (-exponent).toNat = 2 ^ exponent.toNat := by
  rw [← zpow_natCast, ← zpow_natCast, ← zpow_add₀ (by norm_num)]
  congr 1
  omega

/-- A significand that holds the factor of a negative exponent stands for an integer. -/
theorem scaled_of_dvd (whole : 2 ^ (-exponent).toNat ∣ significand) :
    (significand : ℚ) * 2 ^ exponent =
      ((significand / 2 ^ (-exponent).toNat * 2 ^ exponent.toNat : Nat) : ℚ) := by
  obtain ⟨quotient, rfl⟩ := whole
  rw [Nat.mul_div_cancel_left _ (Nat.two_pow_pos _)]
  push_cast
  rw [← two_zpow_eq exponent]
  ring

/-- Any other significand does not. -/
theorem dvd_of_scaled {n : Int} (whole : (significand : ℚ) * 2 ^ exponent = n) :
    2 ^ (-exponent).toNat ∣ significand := by
  have scaled : (significand : ℚ) * 2 ^ exponent.toNat = n * 2 ^ (-exponent).toNat := by
    rw [← two_zpow_eq, ← mul_assoc, whole]
  have integral : (significand : Int) * 2 ^ exponent.toNat = n * 2 ^ (-exponent).toNat := by
    exact_mod_cast scaled
  rcases Int.le_total 0 exponent with up | down
  · rw [Int.toNat_of_nonpos (by omega)]
    exact one_dvd _
  · rw [Int.toNat_of_nonpos down, pow_zero, mul_one] at integral
    exact Int.natCast_dvd_natCast.mp ⟨n, by rw [integral, mul_comm]; norm_cast⟩

/-- A binary number is an integer when its value is one. -/
theorem toInt?_eq_some_iff {x : Binary64} {n : Int} :
    x.toInt? = some n ↔ x.value? = some (n : ℚ) := by
  cases x with
  | nan => simp [toInt?, value?]
  | infinite => simp [toInt?, value?]
  | finite negative significand exponent =>
    rw [toInt?, value?, Option.some.injEq]
    dsimp only [Nat.pow_eq]
    by_cases whole : 2 ^ (-exponent).toNat ∣ significand
    · rw [if_pos (Nat.mod_eq_zero_of_dvd whole), scaled_of_dvd whole, Option.some.injEq]
      generalize significand / 2 ^ (-exponent).toNat * 2 ^ exponent.toNat = magnitude
      cases negative with
      | false =>
        rw [if_neg Bool.false_ne_true, if_neg Bool.false_ne_true, one_mul]
        norm_cast
      | true =>
        rw [if_pos rfl, if_pos rfl, neg_one_mul, ← Int.cast_inj (α := ℚ), Int.cast_neg,
          Int.cast_natCast]
    · rw [if_neg (mt Nat.dvd_of_mod_eq_zero whole)]
      refine iff_of_false (by rintro ⟨⟩) fun value => whole ?_
      cases negative with
      | false =>
        rw [if_neg Bool.false_ne_true, one_mul] at value
        exact dvd_of_scaled value
      | true =>
        rw [if_pos rfl, neg_one_mul, neg_eq_iff_eq_neg, ← Int.cast_neg] at value
        exact dvd_of_scaled value

end Binary64

/-- The ways to give an integer, among them texts that spell it in some manner. A binary number
counts below a bound. -/
inductive IntegerLike (spelled : String → Int → Prop) : Json → Int → Prop
  | int (n : Int) : IntegerLike spelled (.int n) n
  | bool (flag : Bool) : IntegerLike spelled (.bool flag) (if flag then 1 else 0)
  | float {x : Binary64} {n : Int} (value : x.value? = some (n : ℚ))
    (small : n.natAbs < Check.binaryIntegerBound) : IntegerLike spelled (.float x) n
  | str {s : String} {n : Int} (text : spelled s n) : IntegerLike spelled (.str s) n

namespace Check

open Checked

variable {value : Json} {n : Int}

theorem integerOfBinary_eq_valid_iff {x : Binary64} :
    integerOfBinary x = valid n ↔ x.value? = some (n : ℚ) ∧ n.natAbs < binaryIntegerBound := by
  rw [← Binary64.toInt?_eq_some_iff]
  cases x with
  | nan => simp [integerOfBinary, Binary64.toInt?, refuse]
  | infinite => simp [integerOfBinary, Binary64.toInt?, refuse]
  | finite negative significand exponent =>
    rw [integerOfBinary]
    cases Binary64.toInt? (.finite negative significand exponent) with
    | none => simp [refuse]
    | some m =>
      dsimp only
      rw [Option.some.injEq]
      split
      · rename_i small
        rw [valid.injEq]
        exact ⟨fun same => ⟨same, same ▸ small⟩, And.left⟩
      · rename_i large
        exact iff_of_false (by rintro ⟨⟩) fun same => large (same.1 ▸ same.2)

theorem integerOfText_eq_valid_iff {s : String} :
    integerOfText s = valid n ↔ IntegerText.Spelled s n := by
  rw [← IntegerText.read_eq_ok_iff, integerOfText]
  split <;> simp_all [refuse]

/-- A value passes as an integer when it is given in one of the ways to give one. -/
theorem integer_eq_valid_iff :
    integer value = valid n ↔ IntegerLike IntegerText.Spelled value n := by
  constructor
  · intro passed
    cases value with
    | int m =>
      cases passed
      exact .int n
    | bool flag =>
      cases passed
      exact .bool flag
    | float x =>
      obtain ⟨whole, small⟩ := integerOfBinary_eq_valid_iff.mp passed
      exact .float whole small
    | str s => exact .str (integerOfText_eq_valid_iff.mp passed)
    | null | arr | obj => cases passed
  · intro like
    cases like with
    | int => rfl
    | bool => rfl
    | float whole small => exact integerOfBinary_eq_valid_iff.mpr ⟨whole, small⟩
    | str spelled => exact integerOfText_eq_valid_iff.mpr spelled

/-- A natural number is given as an integer that is not negative. -/
theorem natural_eq_valid_iff {n : Nat} :
    natural value = valid n ↔ IntegerLike IntegerText.Spelled value n := by
  rw [natural, andThen_eq_valid]
  simp only [integer_eq_valid_iff]
  constructor
  · rintro ⟨m, like, passed⟩
    split at passed
    · cases passed
    · rename_i nonnegative
      cases passed
      rwa [Int.toNat_of_nonneg (Int.not_lt.mp nonnegative)]
  · intro like
    refine ⟨n, like, ?_⟩
    rw [if_neg (Int.not_lt.mpr (Int.natCast_nonneg n)), Int.toNat_natCast]

end Check

end SchemaWeaver
