import SqlBuilder.Text.Digits
import SqlBuilder.Time.Date

/-!
Instants of universal time and their text, as in
`2024-01-02 03:04:05.250 UTC`.
-/

namespace SqlBuilder

def nanosPerSecond : Nat := 1000000000

/-- Seconds since the beginning of 1970 and nanoseconds of the second.  Inside
a leap second, which follows the last second of a minute, the nanoseconds run
on past a thousand million. -/
structure Instant where
  seconds : Int
  nanos : Nat
  inSecond : nanos < nanosPerSecond ∨
    (nanos < 2 * nanosPerSecond ∧ seconds % 60 = 59) := by decide
deriving DecidableEq, Repr

namespace Instant

def epoch : Instant where
  seconds := 0
  nanos := 0

/-- The instant with these parts, if there is one. -/
def ofParts? (seconds : Int) (nanos : Nat) : Option Instant :=
  if inSecond : nanos < nanosPerSecond ∨
      (nanos < 2 * nanosPerSecond ∧ seconds % 60 = 59) then
    some ⟨seconds, nanos, inSecond⟩
  else none

def date (instant : Instant) : Date := .ofDays (instant.seconds / 86400)

def secondOfDay (instant : Instant) : Nat := (instant.seconds % 86400).toNat

/-- The second of the minute, 60 inside a leap second. -/
def secondOfMinute (instant : Instant) : Nat :=
  instant.secondOfDay % 60 + instant.nanos / nanosPerSecond

/-- A year: four digits from 0 to 9999, otherwise a sign and at least four digits. -/
def yearText (year : Int) : Text :=
  if year < 0 then "-" ++ Text.zeroPadded 4 year.natAbs
  else if year ≤ 9999 then Text.zeroPadded 4 year.natAbs
  else "+" ++ Text.zeroPadded 4 year.natAbs

/-- A fraction of a second: nothing when zero, otherwise a point and three, six
or nine digits, the fewest that are exact. -/
def fractionText (nanos : Nat) : Text :=
  if nanos = 0 then ""
  else if nanos % 1000000 = 0 then "." ++ Text.zeroPadded 3 (nanos / 1000000)
  else if nanos % 1000 = 0 then "." ++ Text.zeroPadded 6 (nanos / 1000)
  else "." ++ Text.zeroPadded 9 nanos

def dateText (date : Date) : Text :=
  yearText date.year ++ "-" ++ Text.zeroPadded 2 date.month ++ "-" ++
    Text.zeroPadded 2 date.day

/-- The text of an instant: date, time of day with its fraction, and `UTC`. -/
def text (instant : Instant) : Text :=
  dateText instant.date ++ " " ++
    Text.zeroPadded 2 (instant.secondOfDay / 3600) ++ ":" ++
    Text.zeroPadded 2 (instant.secondOfDay / 60 % 60) ++ ":" ++
    Text.zeroPadded 2 instant.secondOfMinute ++
    fractionText (instant.nanos % nanosPerSecond) ++ " UTC"

example : text { seconds := -1, nanos := 250000000 } = "1969-12-31 23:59:59.250 UTC" := by
  decide +kernel
example : text { seconds := 59, nanos := 1000001000 } = "1970-01-01 00:00:60.000001 UTC" := by
  decide +kernel
example : yearText (-1) = "-0001" ∧ yearText 10000 = "+10000" := by decide

end Instant

/-- A source of the current time, as the answers that it is still to give. -/
structure Clock where
  answers : Nat → Instant

namespace Clock

def fixed (instant : Instant) : Clock := ⟨fun _ => instant⟩

/-- Asks the clock once: its next answer, and the clock after it. -/
def read (clock : Clock) : Instant × Clock :=
  (clock.answers 0, ⟨fun n => clock.answers (n + 1)⟩)

end Clock

end SqlBuilder
