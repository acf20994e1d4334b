import HomeKeyHousehold.Library.Binary64

/-!
# Numerals of binary64 numbers

A decimal numeral is read as the nearest binary64 number, ties to even, or as too large
for one.  A number is printed with the fewest significant digits that are read as it, and
of these the nearest.
-/

namespace Library

namespace Binary64

/-- The number a numeral `mantissa · 10 ^ exponent` is read as, when it is finite. -/
def ofNumeral (negative : Bool) (mantissa : Nat) (exponent : Int) : Option Binary64 :=
  ofQuotient negative (mantissa * 10 ^ exponent.toNat) (10 ^ (-exponent).toNat)

/-- The numeral of all digits of a number, of which there are `10 ^ 1074` in one. -/
def digits (value : Binary64) : Nat := value.units * 5 ^ 1074

/-- The numerals with a number of significant digits on either side of a number, and first
the nearer one. -/
def neighbours (value : Binary64) (count : Nat) : List (Nat × Int) :=
  let dropped := (Nat.toDigits 10 value.digits).length - count
  [Decimal.divideRound value.digits (10 ^ dropped), value.digits / 10 ^ dropped,
    value.digits / 10 ^ dropped + 1].map fun mantissa => lowestTerms mantissa (dropped - 1074)

/-- Whether a numeral is read as a number. -/
def isRead (value : Binary64) (numeral : Nat × Int) : Bool :=
  ofNumeral value.negative numeral.1 numeral.2 = some value

/-- The shortest numeral that is read as a number; 17 digits are enough for every number. -/
def shortest (value : Binary64) : Nat × Int :=
  (((List.range 17).flatMap fun fewer => value.neighbours (fewer + 1)).find? value.isRead).getD
    (lowestTerms value.digits (-1074))

/-- Lowest terms are read alike. -/
theorem ofNumeral_lowestTerms (negative : Bool) (mantissa : Nat) (exponent : Int) :
    ofNumeral negative (lowestTerms mantissa exponent).1 (lowestTerms mantissa exponent).2 =
      ofNumeral negative mantissa exponent :=
  ofQuotient_congr (Nat.pow_pos (by decide)) (Nat.pow_pos (by decide))
    (lowestTerms_cross mantissa exponent)

/-- All digits of a number are read as it. -/
theorem ofNumeral_places (value : Binary64) {places : Nat} (fine : unitsPerOne = 2 ^ places) :
    ofNumeral value.negative (value.units * 5 ^ places) (-places) = some value := by
  have whole : (-(places : Int)).toNat = 0 := by omega
  have tens : (- -(places : Int)).toNat = places := by omega
  rw [← ofQuotient_units value, ofNumeral, whole, tens]
  apply ofQuotient_congr (Nat.pow_pos (by decide)) unitsPerOne_pos
  rw [fine, Nat.pow_zero, Nat.mul_one, Nat.mul_assoc, ← Nat.mul_pow]

theorem ofNumeral_digits (value : Binary64) :
    ofNumeral value.negative value.digits (-1074) = some value :=
  value.ofNumeral_places rfl

/-- What is printed is read back. -/
theorem isRead_shortest (value : Binary64) : value.isRead value.shortest = true := by
  rw [shortest]
  generalize (List.range 17).flatMap (fun fewer => value.neighbours (fewer + 1)) = numerals
  cases found : numerals.find? value.isRead with
  | none =>
      rw [Option.getD_none, isRead, ofNumeral_lowestTerms]
      exact decide_eq_true value.ofNumeral_digits
  | some numeral => exact List.find?_some found

theorem ofNumeral_shortest (value : Binary64) :
    ofNumeral value.negative value.shortest.1 value.shortest.2 = some value :=
  of_decide_eq_true value.isRead_shortest

/-- One tenth has one digit. -/
example : (ofNumeral false 1 (-1)).map shortest = some (1, -1) := by decide +kernel

/-- Below a power of two the numbers are closer, and the nearest of 16 digits is another. -/
example : (ofQuotient false 1 (2 ^ 44)).map shortest = some (5684341886080802, -29) := by
  decide +kernel

end Binary64

end Library
