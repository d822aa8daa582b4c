/-
  Moments in universal time.

  * `Timestamp`: seconds since the beginning of 1970 and nanoseconds; the last
    second of a minute may hold a second more.
  * `civilDate`: the date of a day in the Gregorian calendar, carried back before
    its beginning.
  * `Timestamp.text`: `2000-02-29T00:00:00.250Z`, with no, three, six or nine
    places; years of more or less than four digits have a sign.
-/
import LoadSwarm.Number.Decimal

namespace LoadSwarm

/-- A day of the calendar. -/
structure CivilDate where
  year : Int
  month : Nat
  day : Nat
  deriving DecidableEq, Repr

/-- The date of the day with a number; day zero is the first of 1970.  Years are counted from
    March, so that the odd day comes last, in eras of 400 years. -/
def civilDate (days : Int) : CivilDate :=
  let shifted := days + 719468
  let era := shifted.fdiv 146097
  let dayOfEra := (shifted.fmod 146097).toNat
  let yearOfEra := (dayOfEra - dayOfEra / 1460 + dayOfEra / 36524 - dayOfEra / 146096) / 365
  let dayOfYear := dayOfEra - (365 * yearOfEra + yearOfEra / 4 - yearOfEra / 100)
  let marchMonth := (5 * dayOfYear + 2) / 153
  let day := dayOfYear - (153 * marchMonth + 2) / 5 + 1
  let month := if marchMonth < 10 then marchMonth + 3 else marchMonth - 9
  ⟨yearOfEra + era * 400 + (if month ≤ 2 then 1 else 0), month, day⟩

/-- A moment. -/
structure Timestamp where
  /-- since the beginning of 1970 -/
  seconds : Int
  nanos : Nat
  deriving DecidableEq, Repr

namespace Timestamp

/-- The first second of the calendar. -/
def firstSecond : Int := -8334601228800

/-- The last second of the calendar. -/
def lastSecond : Int := 8210266876799

/-- The moment of some seconds and nanoseconds.  More than a second of nanoseconds belongs to
    the last second of a minute. -/
def ofUnix? (seconds : Int) (nanos : Nat) : Option Timestamp :=
  if seconds < firstSecond || lastSecond < seconds then none
  else if nanos < 1000000000 || (nanos < 2000000000 && seconds.fmod 60 = 59) then some ⟨seconds, nanos⟩
  else none

/-- At least `width` digits. -/
def padded (width n : Nat) : String := String.ofList (Binary64.paddedDigits width n)

/-- A year in four digits, or with a sign. -/
def yearText (y : Int) : String :=
  if 0 ≤ y && y ≤ 9999 then padded 4 y.toNat
  else (if y < 0 then "-" else "+") ++ padded 4 y.natAbs

/-- The places of a fraction of a second. -/
def fractionText (nanos : Nat) : String :=
  if nanos = 0 then ""
  else if nanos % 1000000 = 0 then "." ++ padded 3 (nanos / 1000000)
  else if nanos % 1000 = 0 then "." ++ padded 6 (nanos / 1000)
  else "." ++ padded 9 nanos

/-- The text of a moment up to its second. -/
def calendarText (t : Timestamp) : String :=
  let date := civilDate (t.seconds.fdiv 86400)
  let ofDay := (t.seconds.fmod 86400).toNat
  let extra := t.nanos / 1000000000
  yearText date.year ++ "-" ++ padded 2 date.month ++ "-" ++ padded 2 date.day ++ "T" ++
    padded 2 (ofDay / 3600) ++ ":" ++ padded 2 (ofDay / 60 % 60) ++ ":" ++ padded 2 (ofDay % 60 + extra)

/-- The text of a moment. -/
def text (t : Timestamp) : String := t.calendarText ++ fractionText (t.nanos % 1000000000) ++ "Z"

/-- The text of a moment with six places. -/
def microText (t : Timestamp) : String :=
  t.calendarText ++ "." ++ padded 6 (t.nanos % 1000000000 / 1000) ++ "Z"

end Timestamp

end LoadSwarm
