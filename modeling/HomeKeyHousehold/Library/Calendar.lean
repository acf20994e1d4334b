import HomeKeyHousehold.Library.Numerals
import Mathlib.Data.Nat.Notation

/-!
# Instants and their ISO 8601 text

An instant is a count of microseconds since the Unix epoch.  Its UTC date is
computed with the proleptic Gregorian calendar, four centuries at a time.
-/

namespace Library

def microsPerSecond : Int := 1000000

def microsPerDay : Int := 86400 * microsPerSecond

/-- Year, month and day of a day counted from 1970-01-01. -/
def civilFromDays (days : Int) : Int × Nat × Nat :=
  let shifted := days + 719468
  let era := shifted / 146097
  let dayOfEra := (shifted % 146097).toNat
  let yearOfEra := (dayOfEra - dayOfEra / 1460 + dayOfEra / 36524 - dayOfEra / 146096) / 365
  let dayOfYear := dayOfEra - (365 * yearOfEra + yearOfEra / 4 - yearOfEra / 100)
  let month := (5 * dayOfYear + 2) / 153
  let day := dayOfYear - (153 * month + 2) / 5 + 1
  let year := era * 400 + yearOfEra
  if month < 10 then (year, month + 3, day) else (year + 1, month - 9, day)

/-- Decimal digits padded with zeros on the left. -/
def padded (width value : Nat) : String :=
  let digits := Nat.toDigits 10 value
  String.ofList (List.replicate (width - digits.length) '0' ++ digits)

/-- `datetime.isoformat()` of an aware UTC datetime. -/
def isoformat (micros : Int) : String :=
  let (year, month, day) := civilFromDays (micros / microsPerDay)
  let ofDay := (micros % microsPerDay).toNat
  let seconds := ofDay / 1000000
  let fraction := ofDay % 1000000
  padded 4 year.toNat ++ "-" ++ padded 2 month ++ "-" ++ padded 2 day ++ "T" ++
    padded 2 (seconds / 3600) ++ ":" ++ padded 2 (seconds / 60 % 60) ++ ":" ++
    padded 2 (seconds % 60) ++
    (if fraction = 0 then "" else "." ++ padded 6 fraction) ++ "+00:00"

example : isoformat (1700000000 * microsPerSecond) = "2023-11-14T22:13:20+00:00" := by decide

example : isoformat (951782400 * microsPerSecond + 5) = "2000-02-29T00:00:00.000005+00:00" := by
  decide

/-- The microseconds of `datetime.fromtimestamp(value)`: those of the whole seconds, and the
nearest integer to the product of the fraction with a million, which is a float again. -/
def timestampMicros (value : Binary64) : Int :=
  let product := roundUnits (value.units % unitsPerOne * 1000000) 1
  let magnitude := value.units / unitsPerOne * 1000000 + Decimal.divideRound product unitsPerOne
  if value.negative then -(magnitude : Int) else magnitude

example : (Binary64.ofNumeral false 17000000000000015 (-7)).map timestampMicros =
    some 1700000000000001 := by decide +kernel

/-- A parsed date and time: the fields read as if in UTC, and the offset from
UTC when the text gave one. -/
structure Datetime where
  fields : Int
  offset : Option Int
  deriving DecidableEq

/-- The instant of a datetime, a naive one being taken as UTC. -/
def Datetime.instant (value : Datetime) : Int := value.fields - value.offset.getD 0

/-- First instant of year 1. -/
def minInstant : Int := -62135596800 * microsPerSecond

/-- First instant after year 9999. -/
def endInstant : Int := 253402300800 * microsPerSecond

end Library
