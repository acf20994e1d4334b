import Mathlib.Algebra.Group.Nat.Defs
import Mathlib.Data.Int.Order.Basic
import Mathlib.Tactic.Common
import Mathlib.Tactic.Ring

/-!
# Decimal numerals and rounded quotients

A numeral with a fraction or an exponent spells a decimal fraction
`mantissa · 10 ^ exponent`.  Its value is kept when trailing zeros of the mantissa
move into the exponent.
-/

namespace Library

/-- Move the trailing zeros of a mantissa into the exponent. -/
def lowestTerms (mantissa : Nat) (exponent : Int) : Nat × Int :=
  if mantissa = 0 then (0, 0)
  else if mantissa % 10 = 0 then lowestTerms (mantissa / 10) (exponent + 1)
  else (mantissa, exponent)
termination_by mantissa
decreasing_by omega

/-- Lowest terms are of the same value, the two fractions multiplied crosswise. -/
theorem lowestTerms_cross (mantissa : Nat) (exponent : Int) :
    (lowestTerms mantissa exponent).1 * 10 ^ (lowestTerms mantissa exponent).2.toNat *
        10 ^ (-exponent).toNat =
      mantissa * 10 ^ exponent.toNat * 10 ^ (-(lowestTerms mantissa exponent).2).toNat := by
  induction mantissa, exponent using lowestTerms.induct with
  | case1 => simp [lowestTerms]
  | case2 mantissa exponent nonzero divisible ih =>
      rw [lowestTerms, if_neg nonzero, if_pos divisible]
      generalize lowestTerms (mantissa / 10) (exponent + 1) = least at ih ⊢
      have tens : mantissa = mantissa / 10 * 10 :=
        (Nat.div_mul_cancel (Nat.dvd_of_mod_eq_zero divisible)).symm
      generalize mantissa / 10 = tenth at ih tens
      subst tens
      rcases lt_or_ge exponent 0 with negative | nonnegative
      · have raised : (-exponent).toNat = (-(exponent + 1)).toNat + 1 := by omega
        have below : exponent.toNat = (exponent + 1).toNat := by omega
        rw [raised, below, Nat.pow_succ, ← Nat.mul_assoc, ih]
        ring
      · have raised : (exponent + 1).toNat = exponent.toNat + 1 := by omega
        have below : (-exponent).toNat = (-(exponent + 1)).toNat := by omega
        rw [below, ih, raised, Nat.pow_succ]
        ring
  | case3 mantissa exponent nonzero indivisible =>
      rw [lowestTerms, if_neg nonzero, if_neg indivisible]

namespace Decimal

/-- Division to the nearest integer, ties to the even one. -/
def divideRound (dividend divisor : Nat) : Nat :=
  let quotient := dividend / divisor
  let twice := 2 * (dividend % divisor)
  if twice < divisor then quotient
  else if divisor < twice then quotient + 1
  else quotient + quotient % 2

/-- A rounded quotient does not change when both its sides are multiplied. -/
theorem divideRound_mul_right {dividend divisor factor : Nat} (positive : 0 < factor) :
    divideRound (dividend * factor) (divisor * factor) = divideRound dividend divisor := by
  have left : 2 * (dividend % divisor * factor) < divisor * factor ↔
      2 * (dividend % divisor) < divisor := by
    rw [← Nat.mul_assoc, Nat.mul_lt_mul_right positive]
  have right : divisor * factor < 2 * (dividend % divisor * factor) ↔
      divisor < 2 * (dividend % divisor) := by
    rw [← Nat.mul_assoc, Nat.mul_lt_mul_right positive]
  simp only [divideRound, Nat.mul_div_mul_right _ _ positive, Nat.mul_mod_mul_right, left, right]

end Decimal

end Library
