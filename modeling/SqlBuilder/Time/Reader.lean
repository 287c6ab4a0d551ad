import SqlBuilder.Time.Calendar
import SqlBuilder.Time.Instant

/-!
Reading the text of an instant: a date of the calendar, a time of day, a
fraction of up to nine digits, and `UTC`.
-/

namespace SqlBuilder.Instant

/-- Reads a number of exactly so many digits. -/
def digits? (count : Nat) (text : Text) : Option (Nat × Text) :=
  if (text.take count).length = count then
    (Text.toNat? (text.take count)).map fun number => (number, text.drop count)
  else none

/-- Reads a number of as many digits as there are. -/
def number? (text : Text) : Option (Nat × Text) :=
  (Text.toNat? (text.takeWhile Char.isDigit)).map fun number =>
    (number, text.dropWhile Char.isDigit)

/-- Reads a year: digits, perhaps after a sign. -/
def year? (text : Text) : Option (Int × Text) :=
  match text with
  | '-' :: rest => (number? rest).map fun read => (-(read.1 : Int), read.2)
  | '+' :: rest => (number? rest).map fun read => ((read.1 : Int), read.2)
  | rest => (number? rest).map fun read => ((read.1 : Int), read.2)

/-- Reads a fraction of a second in nanoseconds; nothing means zero. -/
def fraction? (text : Text) : Option (Nat × Text) :=
  match text with
  | '.' :: rest =>
      let digits := rest.takeWhile Char.isDigit
      if digits.length ≤ 9 then
        (Text.toNat? digits).map fun number =>
          (number * Nat.pow 10 (9 - digits.length), rest.dropWhile Char.isDigit)
      else none
  | rest => some (0, rest)

/-- Reads a date with hyphens. -/
def date? (text : Text) : Option (Date × Text) := do
  let (year, text) ← year? text
  let (month, text) ← digits? 2 (← Text.after? "-" text)
  let (day, text) ← digits? 2 (← Text.after? "-" text)
  let date : Date := ⟨year, month, day⟩
  if date.inCalendar then some (date, text) else none

/-- The instant that a text denotes.  Second 60 lies inside a leap second. -/
def read? (text : Text) : Option Instant := do
  let (date, text) ← date? text
  let (hour, text) ← digits? 2 (← Text.after? " " text)
  let (minute, text) ← digits? 2 (← Text.after? ":" text)
  let (second, text) ← digits? 2 (← Text.after? ":" text)
  let (nanos, text) ← fraction? text
  if text = " UTC" ∧ hour < 24 ∧ minute < 60 ∧ second ≤ 60 then
    let leap := if second = 60 then 1 else 0
    ofParts? (date.number * 86400 + (hour * 3600 + minute * 60 + (second - leap) : Nat))
      (nanos + leap * nanosPerSecond)
  else none

example : read? "1969-12-31 23:59:59.250 UTC" = some { seconds := -1, nanos := 250000000 } := by
  decide +kernel
example : read? "1966-01-01 00:00:60 UTC" =
    some { seconds := -126230341, nanos := 1000000000 } := by decide +kernel
example : read? "2001-02-29 00:00:00 UTC" = none := by decide +kernel

end SqlBuilder.Instant
