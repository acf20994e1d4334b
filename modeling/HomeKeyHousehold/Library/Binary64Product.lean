import HomeKeyHousehold.Library.Binary64

/-!
# Products of binary64 numbers with integers

A rounded quotient or product is off by half a last place at most.  A quotient that is
multiplied by its divisor again stays within half a unit of its dividend, as long as that
has few enough digits, and rounds back to it.
-/

namespace Library

namespace Decimal

variable {dividend divisor nearest : Nat}

/-- Rounding leaves at most half a divisor. -/
theorem divideRound_bounds (positive : 0 < divisor) :
    2 * dividend ≤ 2 * (divideRound dividend divisor * divisor) + divisor ∧
      2 * (divideRound dividend divisor * divisor) ≤ 2 * dividend + divisor := by
  have parts := Nat.div_add_mod dividend divisor
  have small := Nat.mod_lt dividend positive
  rw [Nat.mul_comm] at parts
  rw [divideRound]
  generalize dividend / divisor = quotient at parts ⊢
  generalize dividend % divisor = rest at parts small ⊢
  split
  · omega
  · split
    · rw [Nat.add_one_mul quotient divisor]
      omega
    · rcases Nat.mod_two_eq_zero_or_one quotient with even | odd
      · rw [even, Nat.add_zero]
        omega
      · rw [odd, Nat.add_one_mul quotient divisor]
        omega

/-- What is nearer than half a divisor is rounded to. -/
theorem divideRound_eq_of_near (below : 2 * dividend < 2 * (nearest * divisor) + divisor)
    (above : 2 * (nearest * divisor) < 2 * dividend + divisor) :
    divideRound dividend divisor = nearest := by
  have positive : 0 < divisor := by
    rcases Nat.eq_zero_or_pos divisor with rfl | positive
    · omega
    · exact positive
  obtain ⟨under, beyond⟩ := @divideRound_bounds dividend divisor positive
  generalize divideRound dividend divisor = rounded at under beyond ⊢
  rcases Nat.lt_trichotomy rounded nearest with less | same | more
  · have apart : (rounded + 1) * divisor ≤ nearest * divisor := Nat.mul_le_mul_right _ less
    rw [Nat.add_one_mul] at apart
    omega
  · exact same
  · have apart : (nearest + 1) * divisor ≤ rounded * divisor := Nat.mul_le_mul_right _ more
    rw [Nat.add_one_mul] at apart
    omega

end Decimal

variable {dividend divisor : Nat}

/-- A magnitude of 53 bits is at least `2 ^ 52` spacings. -/
theorem spacing_mul_le {units : Nat} (long : 2 ^ 52 ≤ units) :
    spacing units * 2 ^ 52 ≤ units := by
  have nonzero : units ≠ 0 := ((Nat.two_pow_pos 52).trans_le long).ne'
  have digits : 52 ≤ units.log2 := (Nat.le_log2 nonzero).mpr long
  rw [spacing, ← Nat.pow_add, Nat.sub_add_cancel digits]
  exact Nat.log2_self_le nonzero

/-- A rounded quotient of 53 bits is off by one part in `2 ^ 53` at most. -/
theorem roundUnits_near (positive : 0 < divisor) (long : 2 ^ 52 * divisor ≤ dividend) :
    2 ^ 53 * dividend ≤ 2 ^ 53 * (roundUnits dividend divisor * divisor) + dividend ∧
      2 ^ 53 * (roundUnits dividend divisor * divisor) ≤ 2 ^ 53 * dividend + dividend := by
  have gap := spacing_mul_le ((Nat.le_div_iff_mul_le positive).mpr long)
  have scaled : divisor * spacing (dividend / divisor) * 2 ^ 52 ≤ dividend := by
    rw [Nat.mul_assoc]
    exact (Nat.mul_le_mul_left _ gap).trans (Nat.mul_div_le dividend divisor)
  have room : 0 < divisor * spacing (dividend / divisor) :=
    Nat.mul_pos positive (spacing_pos _)
  obtain ⟨under, beyond⟩ := @Decimal.divideRound_bounds dividend _ room
  have same : roundUnits dividend divisor * divisor =
      Decimal.divideRound dividend (divisor * spacing (dividend / divisor)) *
        (divisor * spacing (dividend / divisor)) := by
    rw [roundUnits]
    ring
  rw [same]
  omega

namespace Binary64

/-- `value * factor` for an integer that is a number itself. -/
def times (value : Binary64) (factor : Nat) : Option Binary64 :=
  ofQuotient value.negative (value.units * factor) unitsPerOne

/-- `int(round(value))`. -/
def roundInt (value : Binary64) : Int :=
  let magnitude := Decimal.divideRound value.units unitsPerOne
  if value.negative then -(magnitude : Int) else magnitude

/-- A quotient that is finite has the rounded units. -/
theorem ofQuotient_eq_some {negative : Bool} (positive : 0 < divisor)
    (finite : dividend + 2 ^ 970 * divisor < 2 ^ 1024 * divisor) :
    ∃ value, ofQuotient negative dividend divisor = some value ∧ value.negative = negative ∧
      value.units = roundUnits (dividend * unitsPerOne) divisor := by
  have there := (@ofQuotient_isSome_iff negative dividend divisor positive).mpr finite
  rw [ofQuotient] at there ⊢
  split
  · exact ⟨_, rfl, rfl, rfl⟩
  · next infinite =>
      rw [dif_neg infinite] at there
      cases there

/-- A magnitude below `2 ^ 52` units is finite. -/
theorem finite_of_le {units bound : Nat} (positive : 0 < bound) (small : units ≤ 2 ^ 52 * bound) :
    units + 2 ^ 970 * bound < 2 ^ 1024 * bound := by
  have room : 2 ^ 52 + 2 ^ 970 < 2 ^ 1024 := by decide +kernel
  calc units + 2 ^ 970 * bound ≤ 2 ^ 52 * bound + 2 ^ 970 * bound := Nat.add_le_add_right small _
    _ = (2 ^ 52 + 2 ^ 970) * bound := (Nat.add_mul _ _ _).symm
    _ < 2 ^ 1024 * bound := Nat.mul_lt_mul_of_pos_right room positive

/-- Two parts in `2 ^ 53` of a dividend of 51 bits are less than half a unit. -/
theorem near_of_parts {whole quotient product unit : Nat} (small : whole ≤ 2 ^ 50)
    (positive : 0 < unit)
    (under : 2 ^ 53 * (whole * unit) ≤ 2 ^ 53 * quotient + whole * unit)
    (beyond : 2 ^ 53 * quotient ≤ 2 ^ 53 * (whole * unit) + whole * unit)
    (less : 2 ^ 53 * quotient ≤ 2 ^ 53 * product + quotient)
    (more : 2 ^ 53 * product ≤ 2 ^ 53 * quotient + quotient) :
    2 * product < 2 * (whole * unit) + unit ∧ 2 * (whole * unit) < 2 * product + unit := by
  have scaled : whole * unit ≤ 2 ^ 50 * unit := Nat.mul_le_mul_right _ small
  generalize whole * unit = exact at scaled under beyond ⊢
  omega

theorem roundUnits_zero (divisor : Nat) : roundUnits 0 divisor = 0 := by
  rw [roundUnits, Decimal.divideRound, Nat.zero_div, Nat.zero_div]
  simp

/-- A magnitude in units is off by one part in `2 ^ 53` at most when it is rounded. -/
theorem roundUnits_unitsPerOne_near {units : Nat} (long : 2 ^ 52 ≤ units) :
    2 ^ 53 * units ≤ 2 ^ 53 * roundUnits (units * unitsPerOne) unitsPerOne + units ∧
      2 ^ 53 * roundUnits (units * unitsPerOne) unitsPerOne ≤ 2 ^ 53 * units + units := by
  have one := unitsPerOne_pos
  obtain ⟨under, beyond⟩ := roundUnits_near one (Nat.mul_le_mul_right unitsPerOne long)
  exact ⟨Nat.le_of_mul_le_mul_right (by linarith) one,
    Nat.le_of_mul_le_mul_right (by linarith) one⟩

/-- A quotient times a factor is nearly the integer it stands for, in units. -/
theorem product_near {whole factor exact : Nat} (positive : 0 < divisor)
    (short : divisor ≤ 2 ^ 50) (some : 0 < whole) (same : whole * factor = exact * divisor) :
    2 ^ 53 * (exact * unitsPerOne) ≤
        2 ^ 53 * (roundUnits (whole * unitsPerOne) divisor * factor) + exact * unitsPerOne ∧
      2 ^ 53 * (roundUnits (whole * unitsPerOne) divisor * factor) ≤
        2 ^ 53 * (exact * unitsPerOne) + exact * unitsPerOne := by
  have wide : 2 ^ 105 ≤ unitsPerOne := by decide +kernel
  have scaled : unitsPerOne ≤ whole * unitsPerOne := Nat.le_mul_of_pos_left _ some
  obtain ⟨under, beyond⟩ := roundUnits_near positive
    (by omega : 2 ^ 52 * divisor ≤ whole * unitsPerOne)
  generalize roundUnits (whole * unitsPerOne) divisor = quotient at under beyond ⊢
  have product : whole * unitsPerOne * factor = exact * unitsPerOne * divisor := by
    rw [Nat.mul_right_comm, same, Nat.mul_right_comm]
  -- Times the factor, both sides are multiples of the divisor.
  have less := Nat.mul_le_mul_right factor under
  have more := Nat.mul_le_mul_right factor beyond
  constructor
  · refine Nat.le_of_mul_le_mul_right ?_ positive
    linarith
  · refine Nat.le_of_mul_le_mul_right ?_ positive
    linarith

section

variable {whole factor exact : Nat} (positive : 0 < divisor) (short : divisor ≤ 2 ^ 50)
variable (small : exact ≤ 2 ^ 50) (same : whole * factor = exact * divisor)
variable (multiplies : 0 < factor)

include positive short small same

/-- A quotient times a factor is finite. -/
theorem product_le :
    roundUnits (whole * unitsPerOne) divisor * factor ≤ 2 ^ 52 * unitsPerOne := by
  rcases Nat.eq_zero_or_pos whole with rfl | some
  · rw [Nat.zero_mul, roundUnits_zero, Nat.zero_mul]
    exact Nat.zero_le _
  · have scaled : exact * unitsPerOne ≤ 2 ^ 50 * unitsPerOne := Nat.mul_le_mul_right _ small
    obtain ⟨-, beyond⟩ := product_near positive short some same
    omega

include multiplies

/-- A quotient of an integer, times a factor, rounds to the integer it stands for. -/
theorem divideRound_product :
    Decimal.divideRound
      (roundUnits (roundUnits (whole * unitsPerOne) divisor * factor * unitsPerOne) unitsPerOne)
      unitsPerOne = exact := by
  have wide : 2 ^ 105 ≤ unitsPerOne := by decide +kernel
  have one := unitsPerOne_pos
  rcases Nat.eq_zero_or_pos exact with rfl | some
  · have nothing : whole = 0 := by
      rw [Nat.zero_mul, Nat.mul_eq_zero] at same
      exact same.resolve_right multiplies.ne'
    rw [nothing, Nat.zero_mul, roundUnits_zero, Nat.zero_mul, Nat.zero_mul, roundUnits_zero,
      Decimal.divideRound, Nat.zero_div]
    simp
  · have filled : 0 < whole := by
      refine Nat.pos_of_ne_zero fun zero => ?_
      rw [zero, Nat.zero_mul] at same
      exact (Nat.mul_pos some positive).ne same
    have scaled : unitsPerOne ≤ exact * unitsPerOne := Nat.le_mul_of_pos_left _ some
    obtain ⟨under, beyond⟩ := product_near positive short filled same
    obtain ⟨less, more⟩ := roundUnits_unitsPerOne_near
      (by omega : 2 ^ 52 ≤ roundUnits (whole * unitsPerOne) divisor * factor)
    obtain ⟨below, above⟩ := near_of_parts small one under beyond less more
    exact Decimal.divideRound_eq_of_near below above

end

/-- Equal products with counts have factors of one sign. -/
theorem neg_of_mul_eq {first second : Int} {count other : Nat} (positive : 0 < count)
    (same : first * count = second * other) (negative : first < 0) : second < 0 := by
  by_contra nonnegative
  have below : first * count < 0 := mul_neg_of_neg_of_pos negative (by omega)
  have above : 0 ≤ second * other := mul_nonneg (not_lt.mp nonnegative) (Int.natCast_nonneg other)
  rw [same] at below
  exact absurd below (not_lt.mpr above)

/-- An integer that is divided, and multiplied to an integer again, rounds to that. -/
theorem roundInt_times_trueDivide {dividend exact : Int} {factor : Nat} (positive : 0 < divisor)
    (short : divisor ≤ 2 ^ 50) (multiplies : 0 < factor) (small : exact.natAbs ≤ 2 ^ 50)
    (same : dividend * factor = exact * divisor) :
    ∃ quotient product, trueDivide dividend divisor = some quotient ∧
      quotient.times factor = some product ∧ product.roundInt = exact := by
  have sizes : dividend.natAbs * factor = exact.natAbs * divisor := by
    have absolute := congrArg Int.natAbs same
    rwa [Int.natAbs_mul, Int.natAbs_mul, Int.natAbs_natCast, Int.natAbs_natCast] at absolute
  have signs : dividend < 0 ↔ exact < 0 :=
    ⟨neg_of_mul_eq multiplies same, neg_of_mul_eq positive same.symm⟩
  have finite : dividend.natAbs ≤ 2 ^ 52 * divisor := by
    calc dividend.natAbs ≤ dividend.natAbs * factor := Nat.le_mul_of_pos_right _ multiplies
      _ = exact.natAbs * divisor := sizes
      _ ≤ 2 ^ 52 * divisor := Nat.mul_le_mul_right _ (by omega)
  obtain ⟨quotient, divided, signed, units⟩ :=
    @ofQuotient_eq_some dividend.natAbs divisor (dividend < 0) positive
      (finite_of_le positive finite)
  have bound := product_le positive short small sizes
  rw [← units] at bound
  obtain ⟨product, multiplied, kept, rounded⟩ :=
    @ofQuotient_eq_some (quotient.units * factor) unitsPerOne quotient.negative unitsPerOne_pos
      (finite_of_le unitsPerOne_pos bound)
  refine ⟨quotient, product, divided, multiplied, ?_⟩
  rw [roundInt, rounded, units, divideRound_product positive short small sizes multiplies, kept,
    signed]
  split
  · next negative =>
      have below := signs.mp (of_decide_eq_true negative)
      omega
  · next nonnegative =>
      have above : ¬ exact < 0 := fun below => nonnegative (decide_eq_true (signs.mpr below))
      omega

/-- A quotient does not change when both its sides are multiplied. -/
theorem trueDivide_mul_right {dividend : Int} {factor : Nat} (multiplies : 0 < factor) :
    trueDivide (dividend * factor) (divisor * factor) = trueDivide dividend divisor := by
  have signs : dividend * factor < 0 ↔ dividend < 0 := by
    have same : dividend * factor * (1 : Nat) = dividend * factor := by
      rw [Nat.cast_one, mul_one]
    exact ⟨neg_of_mul_eq Nat.one_pos same, neg_of_mul_eq multiplies same.symm⟩
  have units : roundUnits (dividend.natAbs * factor * unitsPerOne) (divisor * factor) =
      roundUnits (dividend.natAbs * unitsPerOne) divisor := by
    rw [Nat.mul_right_comm, roundUnits_mul_right multiplies]
  unfold trueDivide ofQuotient
  simp only [Int.natAbs_mul, Int.natAbs_natCast, units, signs]

end Binary64

end Library
