import HomeKeyHousehold.Library.Decimal
import Mathlib.Algebra.Order.Ring.Nat
import Mathlib.Tactic.Linarith
import Mathlib.Tactic.Ring

/-!
# Binary64 numbers and rounded quotients

A finite binary64 number is a sign and a whole number of units of `2 ^ -1074`
with at most 53 significant bits.  A quotient of natural numbers is rounded to
the nearest of them, ties to even, and has no finite result from half a last
place below `2 ^ 1024` on.
-/

namespace Library

namespace Decimal

/-- Rounding reaches an even number from the half below it on. -/
theorem le_divideRound_iff_of_even {dividend divisor bound : Nat} (positive : 0 < divisor)
    (even : bound % 2 = 0) :
    bound ≤ divideRound dividend divisor ↔ 2 * (bound * divisor) ≤ 2 * dividend + divisor := by
  have parts := Nat.div_add_mod dividend divisor
  have small := Nat.mod_lt dividend positive
  rw [divideRound]
  generalize dividend / divisor = quotient at parts ⊢
  generalize dividend % divisor = rest at parts small ⊢
  subst parts
  rw [Nat.mul_comm divisor quotient]
  rcases Nat.lt_trichotomy bound (quotient + 1) with below | rfl | above
  · have scaled : bound * divisor ≤ quotient * divisor :=
      Nat.mul_le_mul_right _ (Nat.le_of_lt_succ below)
    refine iff_of_true ?_ (by omega)
    split_ifs <;> omega
  · rw [Nat.add_one_mul quotient divisor]
    split_ifs <;> omega
  · have scaled : (quotient + 2) * divisor ≤ bound * divisor := Nat.mul_le_mul_right _ above
    rw [Nat.add_mul] at scaled
    refine iff_of_false ?_ (by omega)
    split_ifs <;> omega

theorem div_le_divideRound (dividend divisor : Nat) :
    dividend / divisor ≤ divideRound dividend divisor := by
  unfold divideRound
  dsimp only
  split_ifs <;> omega

theorem divideRound_le_succ (dividend divisor : Nat) :
    divideRound dividend divisor ≤ dividend / divisor + 1 := by
  unfold divideRound
  dsimp only
  split_ifs <;> omega

/-- Rounding does not go past a number that is not below the quotient. -/
theorem divideRound_le {dividend divisor bound : Nat} (positive : 0 < divisor)
    (enough : dividend ≤ bound * divisor) : divideRound dividend divisor ≤ bound := by
  have parts := Nat.div_add_mod dividend divisor
  have small := Nat.mod_lt dividend positive
  rw [divideRound]
  generalize dividend / divisor = quotient at parts ⊢
  generalize dividend % divisor = rest at parts small ⊢
  subst parts
  have reach : quotient ≤ bound := by
    by_contra beyond
    have scaled : (bound + 1) * divisor ≤ quotient * divisor :=
      Nat.mul_le_mul_right _ (Nat.lt_of_not_le beyond)
    linarith
  rcases Nat.lt_or_eq_of_le reach with below | rfl
  · split_ifs <;> omega
  · have whole : rest = 0 := by
      rw [Nat.mul_comm quotient divisor] at enough
      omega
    rw [whole, if_pos (by omega)]

end Decimal

/-! ## Numbers -/

/-- The distance between neighbours at a magnitude, which leaves 53 significant
bits. -/
def spacing (units : Nat) : Nat := 2 ^ (units.log2 - 52)

/-- The units in one. -/
def unitsPerOne : Nat := 2 ^ 1074

/-- A finite binary64 number. -/
structure Binary64 where
  negative : Bool
  units : Nat
  precise : spacing units ∣ units
  finite : units < 2 ^ 1024 * unitsPerOne
  deriving DecidableEq

/-- The nearest multiple of the spacing at a quotient. -/
def roundUnits (dividend divisor : Nat) : Nat :=
  let gap := spacing (dividend / divisor)
  Decimal.divideRound dividend (divisor * gap) * gap

theorem spacing_pos (units : Nat) : 0 < spacing units := Nat.two_pow_pos _

theorem unitsPerOne_pos : 0 < unitsPerOne := by decide +kernel

/-- A rounded quotient does not change when both its sides are multiplied. -/
theorem roundUnits_mul_right {dividend divisor factor : Nat} (positive : 0 < factor) :
    roundUnits (dividend * factor) (divisor * factor) = roundUnits dividend divisor := by
  unfold roundUnits
  dsimp only
  rw [Nat.mul_div_mul_right _ _ positive, Nat.mul_right_comm,
    Decimal.divideRound_mul_right positive]

/-- Rounding looks at the value of a quotient only. -/
theorem roundUnits_congr {dividend divisor other otherDivisor : Nat} (positive : 0 < divisor)
    (divides : 0 < otherDivisor) (same : dividend * otherDivisor = other * divisor) :
    roundUnits dividend divisor = roundUnits other otherDivisor := by
  rw [← @roundUnits_mul_right dividend divisor _ divides, same, Nat.mul_comm divisor otherDivisor,
    roundUnits_mul_right positive]

/-- A magnitude with 53 significant bits is its own rounding. -/
theorem roundUnits_one {units : Nat} (precise : spacing units ∣ units) :
    roundUnits units 1 = units := by
  obtain ⟨count, whole⟩ := precise
  have gap := spacing_pos units
  unfold roundUnits
  dsimp only
  rw [Nat.div_one, Nat.one_mul]
  generalize spacing units = place at whole gap ⊢
  subst whole
  rw [Decimal.divideRound, Nat.mul_mod_right, Nat.mul_zero, if_pos gap,
    Nat.mul_div_cancel_left _ gap, Nat.mul_comm]

/-- A magnitude is less than `2 ^ 53` spacings. -/
theorem div_spacing_lt (units : Nat) : units / spacing units < 2 ^ 53 := by
  rw [Nat.div_lt_iff_lt_mul (spacing_pos units), spacing, ← Nat.pow_add]
  calc units < 2 ^ (units.log2 + 1) := Nat.lt_log2_self
    _ ≤ 2 ^ (53 + (units.log2 - 52)) := Nat.pow_le_pow_right (by decide) (by omega)

/-- Rounding leaves 53 significant bits. -/
theorem roundUnits_precise (dividend divisor : Nat) :
    spacing (roundUnits dividend divisor) ∣ roundUnits dividend divisor := by
  have bound : Decimal.divideRound dividend (divisor * spacing (dividend / divisor)) ≤ 2 ^ 53 := by
    have short := div_spacing_lt (dividend / divisor)
    rw [Nat.div_div_eq_div_mul] at short
    exact (Decimal.divideRound_le_succ _ _).trans short
  rw [roundUnits]
  generalize Decimal.divideRound dividend _ = significand at bound ⊢
  rw [spacing.eq_def (dividend / divisor)]
  generalize (dividend / divisor).log2 - 52 = place
  rcases Nat.lt_or_eq_of_le bound with short | rfl
  · rcases Nat.eq_zero_or_pos significand with rfl | positive
    · rw [Nat.zero_mul]
      exact Nat.dvd_zero _
    · have digits : (significand * 2 ^ place).log2 < 53 + place := by
        rw [Nat.log2_lt (Nat.mul_pos positive (Nat.two_pow_pos _)).ne', Nat.pow_add]
        exact Nat.mul_lt_mul_of_pos_right short (Nat.two_pow_pos _)
      exact Nat.dvd_mul_left_of_dvd (Nat.pow_dvd_pow 2 (by omega)) significand
  · rw [← Nat.pow_add, spacing, Nat.log2_two_pow]
    exact Nat.pow_dvd_pow 2 (by omega)

/-- The greatest magnitude below a power of two. -/
theorem units_le_of_precise {units place : Nat} (precise : spacing units ∣ units)
    (finite : units < 2 ^ (53 + place)) : units ≤ (2 ^ 53 - 1) * 2 ^ place := by
  by_cases large : 2 ^ (52 + place) ≤ units
  · have nonzero : units ≠ 0 := ((Nat.two_pow_pos _).trans_le large).ne'
    have digits : 52 + place ≤ units.log2 := (Nat.le_log2 nonzero).mpr large
    obtain ⟨significand, rfl⟩ : 2 ^ place ∣ units :=
      (Nat.pow_dvd_pow 2 (by omega)).trans precise
    rw [Nat.pow_add, Nat.mul_comm] at finite
    rw [Nat.mul_comm]
    exact Nat.mul_le_mul_right _ (Nat.le_pred_of_lt (Nat.lt_of_mul_lt_mul_right finite))
  · calc units ≤ 2 ^ (52 + place) := (Nat.lt_of_not_le large).le
      _ = 2 ^ 52 * 2 ^ place := Nat.pow_add 2 52 place
      _ ≤ (2 ^ 53 - 1) * 2 ^ place := Nat.mul_le_mul_right _ (by decide)

/-- Rounding keeps the leading bit of a quotient with at least 53 bits. -/
theorem two_pow_log2_le_roundUnits {dividend divisor : Nat}
    (long : 52 ≤ (dividend / divisor).log2) :
    2 ^ (dividend / divisor).log2 ≤ roundUnits dividend divisor := by
  have kept := Decimal.div_le_divideRound dividend (divisor * spacing (dividend / divisor))
  rw [← Nat.div_div_eq_div_mul] at kept
  rw [roundUnits]
  generalize Decimal.divideRound dividend _ = significand at kept ⊢
  generalize dividend / divisor = quotient at long kept ⊢
  have nonzero : quotient ≠ 0 := by
    rintro rfl
    exact absurd long (by decide)
  have leading : 2 ^ 52 ≤ quotient / spacing quotient := by
    rw [Nat.le_div_iff_mul_le (spacing_pos quotient), spacing, ← Nat.pow_add,
      Nat.add_sub_cancel' long]
    exact Nat.log2_self_le nonzero
  calc 2 ^ quotient.log2 = 2 ^ 52 * spacing quotient := by
        rw [spacing, ← Nat.pow_add, Nat.add_sub_cancel' long]
    _ ≤ significand * spacing quotient := Nat.mul_le_mul_right _ (leading.trans kept)

/-- Rounding does not go past a power of two above the quotient. -/
theorem roundUnits_le {dividend divisor top : Nat} (wide : 52 ≤ top)
    (below : dividend / divisor < 2 ^ top) : roundUnits dividend divisor ≤ 2 ^ top := by
  have rounded := Decimal.divideRound_le_succ dividend (divisor * spacing (dividend / divisor))
  rw [← Nat.div_div_eq_div_mul] at rounded
  rw [roundUnits]
  generalize Decimal.divideRound dividend _ = significand at rounded ⊢
  generalize dividend / divisor = quotient at below rounded ⊢
  obtain ⟨count, whole⟩ : spacing quotient ∣ 2 ^ top := by
    apply Nat.pow_dvd_pow 2
    have digits : quotient.log2 ≤ top := by
      by_cases zero : quotient = 0
      · simp [zero]
      · exact ((Nat.log2_lt zero).mpr below).le
    omega
  rw [whole] at below ⊢
  rw [Nat.mul_comm]
  exact Nat.mul_le_mul_left _ (rounded.trans (Nat.div_lt_of_lt_mul below))

/-- Rounding reaches a power of two from half a last place below it on. -/
theorem two_pow_le_roundUnits_iff {dividend divisor place : Nat} (positive : 0 < divisor) :
    2 ^ (53 + place) ≤ roundUnits dividend divisor ↔
      2 * (2 ^ 53 * (divisor * 2 ^ place)) ≤ 2 * dividend + divisor * 2 ^ place := by
  have lower := Nat.div_mul_le_self dividend divisor
  have upper := Nat.lt_div_mul_add (a := dividend) positive
  have scaled : 0 < divisor * 2 ^ place := Nat.mul_pos positive (Nat.two_pow_pos place)
  rcases Nat.lt_trichotomy (dividend / divisor).log2 (52 + place) with small | middle | large
  · have short : dividend / divisor < 2 ^ (52 + place) :=
      Nat.lt_log2_self.trans_le (Nat.pow_le_pow_right (by decide) small)
    have kept := roundUnits_le (by omega) short
    have next : 2 ^ (52 + place) < 2 ^ (53 + place) :=
      Nat.pow_lt_pow_right (by decide) (by omega)
    have reach : (dividend / divisor + 1) * divisor ≤ 2 ^ 52 * (divisor * 2 ^ place) := by
      rw [Nat.mul_comm divisor, ← Nat.mul_assoc, ← Nat.pow_add]
      exact Nat.mul_le_mul_right _ short
    rw [Nat.succ_mul] at reach
    exact iff_of_false (by omega) (by omega)
  · -- The last place of the quotient is `2 ^ place`.
    have gap : spacing (dividend / divisor) = 2 ^ place := by
      rw [spacing, middle, Nat.add_sub_cancel_left]
    rw [roundUnits, gap, Nat.pow_add, Nat.mul_le_mul_right_iff (Nat.two_pow_pos place),
      Decimal.le_divideRound_iff_of_even scaled (by decide)]
  · have nonzero : dividend / divisor ≠ 0 := by
      intro zero
      simp [zero] at large
    have tall : 2 ^ (53 + place) ≤ dividend / divisor :=
      (Nat.le_log2 nonzero).mp (by omega)
    have kept : 2 ^ (53 + place) ≤ roundUnits dividend divisor :=
      (Nat.pow_le_pow_right (by decide) (by omega)).trans (two_pow_log2_le_roundUnits (by omega))
    have reach : 2 ^ 53 * (divisor * 2 ^ place) ≤ dividend / divisor * divisor := by
      rw [Nat.mul_comm divisor, ← Nat.mul_assoc, ← Nat.pow_add]
      exact Nat.mul_le_mul_right _ tall
    exact iff_of_true kept (by omega)

/-- The same for a quotient of units, when the last place is two halves. -/
theorem two_pow_le_roundUnits_mul_iff {dividend divisor place half unit : Nat}
    (positive : 0 < divisor) (one : 0 < unit) (last : 2 ^ place = 2 * half * unit) :
    2 ^ (53 + place) ≤ roundUnits (dividend * unit) divisor ↔
      2 ^ 54 * half * divisor ≤ dividend + half * divisor := by
  have twice : 0 < 2 * unit := Nat.mul_pos (by decide) one
  rw [two_pow_le_roundUnits_iff positive, last]
  rw [show 2 * (2 ^ 53 * (divisor * (2 * half * unit))) =
      2 * unit * (2 ^ 54 * half * divisor) by ring,
    show 2 * (dividend * unit) + divisor * (2 * half * unit) =
      2 * unit * (dividend + half * divisor) by ring,
    Nat.mul_le_mul_left_iff twice]

/-- A number below the limit stays clear of the last half when it is rounded to
a fraction. -/
theorem divideRound_add_lt {units scale half unit : Nat} (one : 0 < unit) (wide : 0 < half)
    (positive : 0 < scale) (greatest : units ≤ (2 ^ 53 - 1) * (2 * half * unit)) :
    Decimal.divideRound (units * scale) unit + half * scale < 2 ^ 54 * half * scale := by
  have room : 0 < half * scale := Nat.mul_pos wide positive
  have rounded : Decimal.divideRound (units * scale) unit ≤ (2 ^ 54 - 2) * (half * scale) := by
    apply Decimal.divideRound_le one
    calc units * scale ≤ (2 ^ 53 - 1) * (2 * half * unit) * scale :=
          Nat.mul_le_mul_right _ greatest
      _ = (2 ^ 54 - 2) * (half * scale) * unit := by ring
  rw [Nat.mul_assoc]
  generalize half * scale = part at room rounded ⊢
  omega

namespace Binary64

/-- A rounded quotient with a sign, when it is finite. -/
def ofQuotient (negative : Bool) (dividend divisor : Nat) : Option Binary64 :=
  if finite : roundUnits (dividend * unitsPerOne) divisor < 2 ^ 1024 * unitsPerOne then
    some
      { negative
        units := roundUnits (dividend * unitsPerOne) divisor
        precise := roundUnits_precise _ _
        finite }
  else none

theorem ofQuotient_congr {negative : Bool} {dividend divisor other otherDivisor : Nat}
    (positive : 0 < divisor) (divides : 0 < otherDivisor)
    (same : dividend * otherDivisor = other * divisor) :
    ofQuotient negative dividend divisor = ofQuotient negative other otherDivisor := by
  have rounded : roundUnits (dividend * unitsPerOne) divisor =
      roundUnits (other * unitsPerOne) otherDivisor := by
    apply roundUnits_congr positive divides
    rw [Nat.mul_right_comm, same, Nat.mul_right_comm]
  simp only [ofQuotient, rounded]

/-- The quotient that a number is. -/
theorem ofQuotient_units (value : Binary64) :
    ofQuotient value.negative value.units unitsPerOne = some value := by
  have rounded : roundUnits (value.units * unitsPerOne) unitsPerOne = value.units := by
    have scaled := @roundUnits_mul_right value.units 1 _ unitsPerOne_pos
    rw [Nat.one_mul] at scaled
    exact scaled.trans (roundUnits_one value.precise)
  simp only [ofQuotient, rounded, dif_pos value.finite]

/-- `dividend / divisor` of integers. -/
def trueDivide (dividend : Int) (divisor : Nat) : Option Binary64 :=
  ofQuotient (dividend < 0) dividend.natAbs divisor

example : (trueDivide 1 10).map units = some (3602879701896397 * 2 ^ 1019) := by decide +kernel

/-- `round(value, places)`: the nearest decimal, and then the nearest number. -/
def roundTo (value : Binary64) (places : Nat) : Option Binary64 :=
  ofQuotient value.negative (Decimal.divideRound (value.units * 10 ^ places) unitsPerOne)
    (10 ^ places)

/-- The last place before `2 ^ 1024`, in units. -/
theorem lastPlace_eq : 2 ^ 2045 = 2 * 2 ^ 970 * unitsPerOne := by decide +kernel

theorem limit_eq : 2 ^ 1024 * unitsPerOne = 2 ^ (53 + 2045) := by decide +kernel

/-- A quotient is finite when it is less than half a last place below
`2 ^ 1024`. -/
theorem ofQuotient_isSome_iff {negative : Bool} {dividend divisor : Nat}
    (positive : 0 < divisor) :
    (ofQuotient negative dividend divisor).isSome ↔
      dividend + 2 ^ 970 * divisor < 2 ^ 1024 * divisor := by
  have finite : (ofQuotient negative dividend divisor).isSome ↔
      ¬ 2 ^ (53 + 2045) ≤ roundUnits (dividend * unitsPerOne) divisor := by
    rw [ofQuotient, ← limit_eq, Nat.not_le]
    split
    · next finite => exact iff_of_true rfl finite
    · next infinite => exact iff_of_false Bool.false_ne_true infinite
  have top : 2 ^ 54 * 2 ^ 970 = 2 ^ 1024 := by decide +kernel
  rw [finite, two_pow_le_roundUnits_mul_iff positive unitsPerOne_pos lastPlace_eq, Nat.not_le, top]

/-- Rounding to decimal places never overflows. -/
theorem roundTo_isSome (value : Binary64) (places : Nat) : (value.roundTo places).isSome := by
  have scale : 0 < 10 ^ places := Nat.pow_pos (by decide)
  have greatest : value.units ≤ (2 ^ 53 - 1) * 2 ^ 2045 :=
    units_le_of_precise value.precise (value.finite.trans_eq limit_eq)
  have wide : 0 < 2 ^ 970 := by decide +kernel
  have top : 2 ^ 54 * 2 ^ 970 = 2 ^ 1024 := by decide +kernel
  rw [lastPlace_eq] at greatest
  have inside := divideRound_add_lt unitsPerOne_pos wide scale greatest
  rwa [top, ← ofQuotient_isSome_iff scale] at inside

end Binary64

end Library
