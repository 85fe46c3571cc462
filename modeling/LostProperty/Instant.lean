/-
  Instants in universal time.

  An instant is a second since the start of 1970 and a part
  of it in nanoseconds. The part may reach two seconds: from
  one second on it belongs to a leap second.

  Key definitions include:
    * `Instant`
    * `Instant.text`
    * `Instant.millisecondsUntil`
-/

------------------------------------------------------------
-- Instants
------------------------------------------------------------

namespace LostProperty

/- A second since the start of 1970, and a part of it. -/
structure Instant where
  seconds : Int
  nanoseconds : Nat
deriving DecidableEq, Repr, Inhabited

namespace Instant

/- The number of seconds of a day. -/
def daySeconds : Int :=
  86400

/- The number of nanoseconds of a second. -/
def secondNanoseconds : Nat :=
  1000000000

/- The day since the start of 1970. -/
def day
    (t : Instant) : Int :=
  Int.fdiv t.seconds daySeconds

/- The second of the day. -/
def secondOfDay
    (t : Instant) : Nat :=
  (Int.fmod t.seconds daySeconds).toNat

/- The instant lies in a leap second. -/
def isLeap
    (t : Instant) : Bool :=
  secondNanoseconds ≤ t.nanoseconds

end Instant

------------------------------------------------------------
-- Dates
------------------------------------------------------------

namespace Instant

/- A day of the calendar. -/
structure Date where
  year : Int
  month : Nat
  day : Nat
deriving DecidableEq, Repr

/-
  The day of the calendar for a number of days since the
  start of 1970. Years are counted from March on, so that a
  leap day is the last day of its year; 400 years always
  have the same number of days.
-/
def Date.ofDay
    (day : Int) : Date :=
  let shifted := day + 719468
  let era := Int.fdiv shifted 146097
  let dayOfEra := (Int.fmod shifted 146097).toNat
  let yearOfEra :=
    (dayOfEra - dayOfEra / 1460 + dayOfEra / 36524
      - dayOfEra / 146096) / 365
  let dayOfYear :=
    dayOfEra
      - (365 * yearOfEra + yearOfEra / 4 - yearOfEra / 100)
  let monthFromMarch := (5 * dayOfYear + 2) / 153
  let month :=
    if monthFromMarch < 10 then
      monthFromMarch + 3
    else
      monthFromMarch - 9
  let year := yearOfEra + era * 400
  { year := if month ≤ 2 then year + 1 else year
    month := month
    day := dayOfYear - (153 * monthFromMarch + 2) / 5 + 1 }

end Instant

------------------------------------------------------------
-- Texts
------------------------------------------------------------

namespace Instant

/- A number with leading zeros up to a width. -/
def padded
    (width n : Nat) : String :=
  let digits := Nat.toDigits 10 n
  String.ofList
    (List.replicate (width - digits.length) '0' ++ digits)

/- A year: four digits, with a sign if they do not do. -/
def yearText
    (year : Int) : String :=
  if 0 ≤ year ∧ year ≤ 9999 then
    padded 4 year.toNat
  else
    (if year < 0 then "-" else "+") ++ padded 4 year.natAbs

/- A part of a second, in the fewest groups of three digits. -/
def fractionText
    (nanoseconds : Nat) : String :=
  if nanoseconds = 0 then
    ""
  else if nanoseconds % 1000000 = 0 then
    "." ++ padded 3 (nanoseconds / 1000000)
  else if nanoseconds % 1000 = 0 then
    "." ++ padded 6 (nanoseconds / 1000)
  else
    "." ++ padded 9 nanoseconds

/- The text of an instant; a leap second is the 60th. -/
def text
    (t : Instant) : String :=
  let date := Date.ofDay t.day
  let second := t.secondOfDay
  let leap := if t.isLeap then 1 else 0
  yearText date.year ++ "-" ++ padded 2 date.month ++ "-"
    ++ padded 2 date.day ++ "T" ++ padded 2 (second / 3600)
    ++ ":" ++ padded 2 (second / 60 % 60) ++ ":"
    ++ padded 2 (second % 60 + leap)
    ++ fractionText (t.nanoseconds % secondNanoseconds) ++ "Z"

end Instant

------------------------------------------------------------
-- Differences
------------------------------------------------------------

namespace Instant

/-
  The leap second that has passed, or is still to pass, when
  one second of the day is reached from another.
-/
def leapCorrection
    (start stop : Instant) : Int :=
  if start.secondOfDay < stop.secondOfDay ∧ start.isLeap then
    1
  else if stop.secondOfDay < start.secondOfDay
      ∧ stop.isLeap then
    -1
  else
    0

/- The whole milliseconds from one instant to another. -/
def millisecondsUntil
    (start stop : Instant) : Int :=
  let seconds :=
    stop.seconds - start.seconds + leapCorrection start stop
  let nanoseconds :=
    seconds * secondNanoseconds
      + ((stop.nanoseconds : Int) - start.nanoseconds)
  Int.tdiv nanoseconds 1000000

end Instant

end LostProperty
