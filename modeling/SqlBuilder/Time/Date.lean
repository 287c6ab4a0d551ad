/-!
Dates of the Gregorian calendar extended to all years, by their number of days
since 1 January 1970.  Years are counted from March, so that the leap day is the
last day of its year and every four hundred years are alike.
-/

namespace SqlBuilder

/-- A day of the calendar.  Year 0 precedes year 1. -/
structure Date where
  year : Int
  month : Nat
  day : Nat
deriving DecidableEq, Repr

namespace Date

/-- Days from 1 March of year 0 to 1 January 1970. -/
def epochOffset : Int := 719468

def daysPerEra : Int := 146097

/-- The year, counted from March within its four hundred years, of a day of them. -/
def yearOfEra (dayOfEra : Nat) : Nat :=
  (dayOfEra - dayOfEra / 1460 + dayOfEra / 36524 - dayOfEra / 146096) / 365

/-- Days of the four hundred years before such a year. -/
def daysBeforeYear (yearOfEra : Nat) : Nat :=
  365 * yearOfEra + yearOfEra / 4 - yearOfEra / 100

/-- Days of a year, counted from March, before its month of this index. -/
def daysBeforeMonth (monthIndex : Nat) : Nat := (153 * monthIndex + 2) / 5

/-- The date that is `days` days after 1 January 1970. -/
def ofDays (days : Int) : Date :=
  let shifted := days + epochOffset
  let dayOfEra := (shifted % daysPerEra).toNat
  let yearIndex := yearOfEra dayOfEra
  let dayOfYear := dayOfEra - daysBeforeYear yearIndex
  let monthIndex := (5 * dayOfYear + 2) / 153
  let month := if monthIndex < 10 then monthIndex + 3 else monthIndex - 9
  { year := shifted / daysPerEra * 400 + yearIndex + (if month ≤ 2 then 1 else 0)
    month := month
    day := dayOfYear - daysBeforeMonth monthIndex + 1 }

example : ofDays 0 = ⟨1970, 1, 1⟩ := by decide
example : ofDays (-719528) = ⟨0, 1, 1⟩ := by decide
example : ofDays 11016 = ⟨2000, 2, 29⟩ := by decide

end Date

end SqlBuilder
