import BearerTokens.Number.Decimal

/-!
# Timestamps and their text

A timestamp counts seconds since the epoch and nanoseconds within the second.
The last second of a minute may be a leap second, which lasts twice as long; its
second half is written as the second with the number 60.  The text names the day
of the proleptic Gregorian calendar and the time of day in UTC.  The fraction is
left out when it is zero and otherwise has three, six or nine digits, the fewest
that are exact.  A year outside {lit}`0` to {lit}`9999` carries its sign.
-/

namespace BearerTokens

/-- A point of time with a resolution of one nanosecond. -/
structure Timestamp where
  /-- Whole seconds since the epoch, rounded down. -/
  seconds : Int
  /-- Nanoseconds within the second, less than two thousand million in a leap second. -/
  nanos : Nat
  deriving DecidableEq, Repr

namespace Timestamp

/-- The start of 1970. -/
def epoch : Timestamp := ⟨0, 0⟩

/-- The first second of the calendar's range, the start of the year -262143. -/
def firstSecond : Int := -8334601228800

/-- The last second of the calendar's range, the end of the year 262142. -/
def lastSecond : Int := 8210266876799

/-- The nanoseconds of a second. -/
def nanosPerSecond : Nat := 1000000000

/-- How many nanoseconds a second may hold; the last of a minute may be a leap second. -/
def nanosLimit (seconds : Int) : Nat :=
  if seconds % 60 = 59 then 2 * nanosPerSecond else nanosPerSecond

/-- The timestamp of seconds and nanoseconds, if it is within the calendar's range. -/
def of? (seconds : Int) (nanos : Nat) : Option Timestamp :=
  if firstSecond ≤ seconds ∧ seconds ≤ lastSecond ∧ nanos < nanosLimit seconds then
    some ⟨seconds, nanos⟩
  else none

/-- The timestamp of a point of time in milliseconds, if it is within the calendar's range. -/
def ofMillis? (millis : Int) : Option Timestamp :=
  of? (millis / 1000) ((millis % 1000).toNat * 1000000)

/-! ## The calendar -/

/-- A day of the proleptic Gregorian calendar. -/
structure Date where
  year : Int
  month : Nat
  day : Nat
  deriving DecidableEq, Repr

/--
The date a number of days after the first of January 1970.  Years are counted
from March, so that the leap day ends a year, and in eras of 400 years, all of
which have 146097 days.
-/
def Date.ofDays (days : Int) : Date :=
  let shifted := days + 719468
  let era := shifted / 146097
  let dayOfEra := (shifted % 146097).toNat
  let yearOfEra :=
    (dayOfEra - dayOfEra / 1460 + dayOfEra / 36524 - dayOfEra / 146096) / 365
  let dayOfYear := dayOfEra - (365 * yearOfEra + yearOfEra / 4 - yearOfEra / 100)
  let monthFromMarch := (5 * dayOfYear + 2) / 153
  let month := if monthFromMarch < 10 then monthFromMarch + 3 else monthFromMarch - 9
  let year := yearOfEra + era * 400
  { year := if month ≤ 2 then year + 1 else year
    month := month
    day := dayOfYear - (153 * monthFromMarch + 2) / 5 + 1 }

/-- Four digits inside {lit}`0` to {lit}`9999`, else a sign and at least four digits. -/
def yearText (year : Int) : List Char :=
  if 0 ≤ year ∧ year ≤ 9999 then Decimal.padded 4 year.toNat
  else (if year < 0 then '-' else '+') :: Decimal.padded 4 year.natAbs

/-- Year, month and day joined by hyphens. -/
def Date.text (date : Date) : List Char :=
  yearText date.year ++ '-' :: Decimal.padded 2 date.month ++ '-' :: Decimal.padded 2 date.day

/-! ## The text of a timestamp -/

/-- Nothing, or a point and the fewest of three, six or nine digits that are exact. -/
def fractionText (nanos : Nat) : List Char :=
  if nanos = 0 then []
  else if nanos % 1000000 = 0 then '.' :: Decimal.padded 3 (nanos / 1000000)
  else if nanos % 1000 = 0 then '.' :: Decimal.padded 6 (nanos / 1000)
  else '.' :: Decimal.padded 9 nanos

/-- Hours, minutes and seconds of a second of the day, which may be in its leap half. -/
def clockText (secondOfDay : Nat) (leap : Bool) : List Char :=
  let second := secondOfDay % 60 + if leap then 1 else 0
  Decimal.padded 2 (secondOfDay / 3600) ++ ':' ::
    Decimal.padded 2 (secondOfDay / 60 % 60) ++ ':' :: Decimal.padded 2 second

/-- The date and the time of day in UTC. -/
def text (t : Timestamp) : String :=
  String.ofList <|
    (Date.ofDays (t.seconds / 86400)).text ++
      'T' :: clockText (t.seconds % 86400).toNat (nanosPerSecond ≤ t.nanos) ++
        fractionText (t.nanos % nanosPerSecond) ++ ['Z']

end Timestamp
end BearerTokens
