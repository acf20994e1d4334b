import HomeKeyHousehold.Library.Calendar
import Mathlib.Data.Nat.Digits.Defs

/-!
# The text of an instant determines it

A date names one day, since a year of an era and the day of that year are recovered
from it, and the fields of an ISO 8601 text have fixed widths.
-/

namespace Library

/-! ## Dates -/

/-- The year of a day of an era of four centuries. -/
def yearOfEra (day : Nat) : Nat := (day - day / 1460 + day / 36524 - day / 146096) / 365

/-- The first day of a year of an era. -/
def startOfYear (year : Nat) : Nat := 365 * year + year / 4 - year / 100

/-- The month of a day of a year that begins with March. -/
def monthOfYear (day : Nat) : Nat := (5 * day + 2) / 153

/-- The date of a day of an era. -/
def dateOf (era : Int) (day : Nat) : Int × Nat × Nat :=
  let dayOfYear := day - startOfYear (yearOfEra day)
  let month := monthOfYear dayOfYear
  let dayOfMonth := dayOfYear - (153 * month + 2) / 5 + 1
  if month < 10 then (era * 400 + yearOfEra day, month + 3, dayOfMonth)
  else (era * 400 + yearOfEra day + 1, month - 9, dayOfMonth)

theorem civilFromDays_eq (days : Int) :
    civilFromDays days = dateOf ((days + 719468) / 146097) ((days + 719468) % 146097).toNat :=
  rfl

variable {day other dayOfYear : Nat}

theorem yearOfEra_lt (inEra : day < 146097) : yearOfEra day < 400 := by
  unfold yearOfEra
  omega

/-- Leap days and centuries begun by a day of an era, from its year. -/
theorem leaps_of_yearOfEra (inEra : day < 146097) :
    yearOfEra day / 4 ≤ day / 1460 ∧ day / 1460 ≤ yearOfEra day / 4 + 1 := by
  have few : day / 1460 ≤ 100 := by omega
  have rarer : day / 36524 ≤ day / 1460 := Nat.div_le_div_left (by omega) (by omega)
  have rarest : day / 146096 ≤ day / 36524 := Nat.div_le_div_left (by omega) (by omega)
  have long : 365 * yearOfEra day ≤ day := by
    unfold yearOfEra
    omega
  constructor
  · omega
  · unfold yearOfEra
    omega

theorem centuries_of_yearOfEra (inEra : day < 146097) :
    yearOfEra day / 100 + day / 146096 = day / 36524 := by
  have five : day / 36524 = 0 ∨ day / 36524 = 1 ∨ day / 36524 = 2 ∨ day / 36524 = 3 ∨
      day / 36524 = 4 := by omega
  have year : yearOfEra day = (day - day / 1460 + day / 36524 - day / 146096) / 365 := rfl
  have atLeast : day / 36524 ≤ yearOfEra day / 100 + day / 146096 := by
    rcases five with century | century | century | century | century <;> omega
  have atMost : yearOfEra day / 100 + day / 146096 ≤ day / 36524 := by
    rcases five with century | century | century | century | century <;> omega
  exact Nat.le_antisymm atMost atLeast

/-- The year of a day begins at most a year before it. -/
theorem startOfYear_bounds (inEra : day < 146097) :
    startOfYear (yearOfEra day) ≤ day ∧ day ≤ startOfYear (yearOfEra day) + 365 := by
  obtain ⟨atLeast, atMost⟩ := leaps_of_yearOfEra inEra
  have centuries := centuries_of_yearOfEra inEra
  have year : 365 * yearOfEra day ≤ day - day / 1460 + day / 36524 - day / 146096 ∧
      day - day / 1460 + day / 36524 - day / 146096 < 365 * yearOfEra day + 365 := by
    unfold yearOfEra
    omega
  unfold startOfYear
  omega

/-- The month and the day of the month determine the day of the year. -/
theorem dayOfYear_of_month (dayOfYear : Nat) :
    (153 * monthOfYear dayOfYear + 2) / 5 ≤ dayOfYear := by
  unfold monthOfYear
  omega

theorem monthOfYear_le (inYear : dayOfYear ≤ 365) : monthOfYear dayOfYear ≤ 11 := by
  unfold monthOfYear
  omega

/-- A date is that of one day of one era. -/
theorem dateOf_injective {era otherEra : Int} (inEra : day < 146097) (otherInEra : other < 146097)
    (same : dateOf era day = dateOf otherEra other) : era = otherEra ∧ day = other := by
  obtain ⟨begun, within⟩ := startOfYear_bounds inEra
  obtain ⟨otherBegun, otherWithin⟩ := startOfYear_bounds otherInEra
  have year := yearOfEra_lt inEra
  have otherYear := yearOfEra_lt otherInEra
  have months := @monthOfYear_le (day - startOfYear (yearOfEra day)) (by omega)
  have otherMonths := @monthOfYear_le (other - startOfYear (yearOfEra other)) (by omega)
  have passed := dayOfYear_of_month (day - startOfYear (yearOfEra day))
  have otherPassed := dayOfYear_of_month (other - startOfYear (yearOfEra other))
  have recovered (years : yearOfEra day = yearOfEra other)
      (sameMonth : monthOfYear (day - startOfYear (yearOfEra day)) =
        monthOfYear (other - startOfYear (yearOfEra other)))
      (sameDay : day - startOfYear (yearOfEra day) -
          (153 * monthOfYear (day - startOfYear (yearOfEra day)) + 2) / 5 + 1 =
        other - startOfYear (yearOfEra other) -
          (153 * monthOfYear (other - startOfYear (yearOfEra other)) + 2) / 5 + 1) :
      day = other := by
    rw [years] at begun
    rw [sameMonth] at sameDay passed
    rw [years] at sameDay passed
    omega
  unfold dateOf at same
  dsimp only at same
  split at same
  · split at same
    · obtain ⟨years, rest⟩ := Prod.mk.inj same
      obtain ⟨sameMonth, sameDay⟩ := Prod.mk.inj rest
      exact ⟨by omega, recovered (by omega) (by omega) sameDay⟩
    · obtain ⟨-, rest⟩ := Prod.mk.inj same
      obtain ⟨sameMonth, -⟩ := Prod.mk.inj rest
      omega
  · split at same
    · obtain ⟨-, rest⟩ := Prod.mk.inj same
      obtain ⟨sameMonth, -⟩ := Prod.mk.inj rest
      omega
    · obtain ⟨years, rest⟩ := Prod.mk.inj same
      obtain ⟨sameMonth, sameDay⟩ := Prod.mk.inj rest
      exact ⟨by omega, recovered (by omega) (by omega) sameDay⟩

/-- A date names one day. -/
theorem civilFromDays_injective : Function.Injective civilFromDays := by
  intro first second same
  rw [civilFromDays_eq, civilFromDays_eq] at same
  obtain ⟨eras, days⟩ := dateOf_injective (by omega) (by omega) same
  omega

/-- The fields of a date have two digits, and before the year 10000 the year has four. -/
structure DateFits (date : Int × Nat × Nat) : Prop where
  positive : 0 ≤ date.1
  year : date.1 < 10000
  month : date.2.1 < 100
  day : date.2.2 < 100

theorem dateFits_of_days {days : Int} (first : -719162 ≤ days) (last : days ≤ 2932896) :
    DateFits (civilFromDays days) := by
  have inEra : ((days + 719468) % 146097).toNat < 146097 := by omega
  obtain ⟨begun, within⟩ := startOfYear_bounds inEra
  have year := yearOfEra_lt inEra
  have months := @monthOfYear_le (((days + 719468) % 146097).toNat -
    startOfYear (yearOfEra ((days + 719468) % 146097).toNat)) (by omega)
  have passed := dayOfYear_of_month (((days + 719468) % 146097).toNat -
    startOfYear (yearOfEra ((days + 719468) % 146097).toNat))
  rw [civilFromDays_eq]
  generalize inside : ((days + 719468) % 146097).toNat = day
    at inEra begun within year months passed ⊢
  unfold dateOf
  dsimp only
  split
  · refine ⟨?_, ?_, ?_, ?_⟩
    · dsimp only
      omega
    · dsimp only
      omega
    · dsimp only
      omega
    · unfold monthOfYear
      dsimp only
      omega
  · next late =>
      -- January and February are of the next year: the last era ends before they do.
      have early : yearOfEra day = 399 → 146037 ≤ day := by
        intro final
        rw [final] at begun late
        unfold monthOfYear startOfYear at late
        unfold startOfYear at begun
        omega
      refine ⟨?_, ?_, ?_, ?_⟩
      · dsimp only
        omega
      · dsimp only
        omega
      · dsimp only
        omega
      · unfold monthOfYear
        dsimp only
        omega

/-! ## Padded digits -/

theorem toList_padded (width value : Nat) :
    (padded width value).toList =
      List.replicate (width - (Nat.toDigits 10 value).length) '0' ++ Nat.toDigits 10 value :=
  String.toList_ofList

/-- Padded digits still spell their number. -/
theorem ofDigitChars_padded (width value : Nat) :
    Nat.ofDigitChars 10 (padded width value).toList 0 = value := by
  rw [toList_padded, Nat.ofDigitChars_append, Nat.ofDigitChars_replicate_zero, Nat.mul_zero,
    Nat.ofDigitChars_ten_toDigits]

variable {width value first second : Nat} {rest tail : String}

theorem length_padded (filled : 0 < width) (fits : value < 10 ^ width) :
    (padded width value).toList.length = width := by
  rw [toList_padded, List.length_append, List.length_replicate]
  exact Nat.sub_add_cancel (Nat.toDigits_length 10 value width filled fits)

/-- A field of a fixed width is read off the front of a text. -/
theorem padded_append_inj (filled : 0 < width) (fits : first < 10 ^ width)
    (otherFits : second < 10 ^ width)
    (same : padded width first ++ rest = padded width second ++ tail) :
    first = second ∧ rest = tail := by
  have lists := congrArg String.toList same
  rw [String.toList_append, String.toList_append] at lists
  have lengths := (length_padded filled fits).trans (length_padded filled otherFits).symm
  obtain ⟨fields, rests⟩ := List.append_inj lists lengths
  have numbers := congrArg (fun digits => Nat.ofDigitChars 10 digits 0) fields
  rw [ofDigitChars_padded, ofDigitChars_padded] at numbers
  exact ⟨numbers, String.toList_injective rests⟩

/-! ## Instants -/

/-- The text of a fraction of a second, with the offset of UTC behind it. -/
def fractionText (fraction : Nat) : String :=
  (if fraction = 0 then "" else "." ++ padded 6 fraction) ++ "+00:00"

theorem isoformat_eq (micros : Int) :
    isoformat micros =
      padded 4 (civilFromDays (micros / microsPerDay)).1.toNat ++
        ("-" ++ (padded 2 (civilFromDays (micros / microsPerDay)).2.1 ++
        ("-" ++ (padded 2 (civilFromDays (micros / microsPerDay)).2.2 ++
        ("T" ++ (padded 2 ((micros % microsPerDay).toNat / 1000000 / 3600) ++
        (":" ++ (padded 2 ((micros % microsPerDay).toNat / 1000000 / 60 % 60) ++
        (":" ++ (padded 2 ((micros % microsPerDay).toNat / 1000000 % 60) ++
        fractionText ((micros % microsPerDay).toNat % 1000000))))))))))) := by
  unfold isoformat fractionText
  simp only [String.append_assoc]

theorem fractionText_injective (fits : first < 1000000) (otherFits : second < 1000000)
    (same : fractionText first = fractionText second) : first = second := by
  have bare : ∀ text : String, ("" ++ text) = text := fun text => String.empty_append
  unfold fractionText at same
  split at same
  · next whole =>
      split at same
      · next otherWhole => rw [whole, otherWhole]
      · rw [bare, String.append_assoc] at same
        have heads := congrArg (fun text => text.toList.head?) same
        simp at heads
  · split at same
    · rw [bare, String.append_assoc] at same
      have heads := congrArg (fun text => text.toList.head?) same
      simp at heads
    · rw [String.append_assoc, String.append_assoc, String.append_right_inj] at same
      exact (padded_append_inj (by decide) fits otherFits same).1

/-- The text of an instant that has one determines the instant. -/
theorem isoformat_injective {earlier later : Int} (begun : minInstant ≤ earlier)
    (ends : earlier < endInstant) (otherBegun : minInstant ≤ later) (otherEnds : later < endInstant)
    (same : isoformat earlier = isoformat later) : earlier = later := by
  unfold minInstant microsPerSecond at begun otherBegun
  unfold endInstant microsPerSecond at ends otherEnds
  have date := @dateFits_of_days (earlier / microsPerDay)
    (by unfold microsPerDay microsPerSecond; omega) (by unfold microsPerDay microsPerSecond; omega)
  have otherDate := @dateFits_of_days (later / microsPerDay)
    (by unfold microsPerDay microsPerSecond; omega) (by unfold microsPerDay microsPerSecond; omega)
  have ofDay : (earlier % microsPerDay).toNat < 86400000000 := by
    unfold microsPerDay microsPerSecond
    omega
  have otherOfDay : (later % microsPerDay).toNat < 86400000000 := by
    unfold microsPerDay microsPerSecond
    omega
  rw [isoformat_eq, isoformat_eq] at same
  obtain ⟨years, same⟩ := padded_append_inj (by decide) (by have := date.year; omega)
    (by have := otherDate.year; omega) same
  obtain ⟨months, same⟩ := padded_append_inj (by decide) date.month otherDate.month
    ((String.append_right_inj _).mp same)
  obtain ⟨days, same⟩ := padded_append_inj (by decide) date.day otherDate.day
    ((String.append_right_inj _).mp same)
  obtain ⟨hours, same⟩ := padded_append_inj (by decide) (by omega) (by omega)
    ((String.append_right_inj _).mp same)
  obtain ⟨minutes, same⟩ := padded_append_inj (by decide) (by omega) (by omega)
    ((String.append_right_inj _).mp same)
  obtain ⟨seconds, same⟩ := padded_append_inj (by decide) (by omega) (by omega)
    ((String.append_right_inj _).mp same)
  have fractions := fractionText_injective (Nat.mod_lt _ (by decide)) (Nat.mod_lt _ (by decide))
    same
  have dates : civilFromDays (earlier / microsPerDay) = civilFromDays (later / microsPerDay) := by
    refine Prod.ext ?_ (Prod.ext months days)
    have positive := date.positive
    have otherPositive := otherDate.positive
    omega
  have wholeDays := civilFromDays_injective dates
  have times : (earlier % microsPerDay).toNat = (later % microsPerDay).toNat := by omega
  unfold microsPerDay microsPerSecond at wholeDays times
  omega

end Library
