import SqlBuilder.Time.Date

/-!
The rules of the Gregorian calendar, extended to all years: which years are leap
years, how long the months are, and the number of a date as the count of the days
before it, year by year and month by month.
-/

namespace SqlBuilder

namespace Calendar

/-- Every fourth year, without the hundredth ones unless they are four hundredth ones. -/
def isLeapYear (year : Int) : Bool :=
  year % 4 == 0 && (year % 100 != 0 || year % 400 == 0)

def monthLengths (year : Int) : List Nat :=
  [31, if isLeapYear year then 29 else 28, 31, 30, 31, 30, 31, 31, 30, 31, 30, 31]

def total (lengths : List Nat) : Nat := lengths.foldr (· + ·) 0

def yearLength (year : Int) : Nat := total (monthLengths year)

/-- The days of `count` years, from the beginning of the first one. -/
def daysOfYears (first : Int) : (count : Nat) → Nat
  | 0 => 0
  | count + 1 => daysOfYears first count + yearLength (first + count)

/-- The days from the beginning of 1970 to the beginning of the year, less than zero
for the years before. -/
def daysToYear (year : Int) : Int :=
  if 1970 ≤ year then daysOfYears 1970 (year - 1970).toNat
  else -(daysOfYears year (1970 - year).toNat : Int)

end Calendar

namespace Date

open Calendar

/-- Whether there is such a month, and such a day of it. -/
def inCalendar (date : Date) : Bool :=
  1 ≤ date.month && date.month ≤ 12 &&
    1 ≤ date.day && date.day ≤ (monthLengths date.year).getD (date.month - 1) 0

/-- The days from 1 January 1970 to the date: those of the years between them, of the
months before its month, and of the days before its day. -/
def number (date : Date) : Int :=
  daysToYear date.year + total ((monthLengths date.year).take (date.month - 1)) +
    (date.day - 1 : Nat)

example : inCalendar ⟨1900, 2, 29⟩ = false ∧ inCalendar ⟨2000, 2, 29⟩ = true := by decide
example : number ⟨1968, 3, 1⟩ = -671 := by decide +kernel

end Date

end SqlBuilder
