import RankLedger.Text.Numeral

set_option autoImplicit false

/-! # Time

A point in time is told in whole seconds since 1970 and billionths of a second. As a date of the
Gregorian calendar and a time of day in UTC, only years from -262143 to 262142 are written; a year
that is not of four digits carries a sign. -/

namespace RankLedger

/-- A point in time. -/
structure Instant where
  seconds : Int
  nanos : Nat
  deriving DecidableEq, Repr, Inhabited

namespace Instant

/-- Billionths of a second since 1970, for telling how old something is. -/
def ticks (t : Instant) : Nat := t.seconds.toNat * 1000000000 + t.nanos

/-- Thousandths of a second since 1970. -/
def millis (t : Instant) : Int := t.seconds * 1000 + t.nanos / 1000000

end Instant

namespace Utc

/-- A day of the Gregorian calendar. -/
structure Date where
  year : Int
  month : Int
  day : Int
  deriving DecidableEq, Repr, Inhabited

/-- The date that lies so many days after 1970-01-01. Years begin in March here, in eras of 400
years and 146097 days, so that a leap day is the last of its year. -/
def dateOfDays (days : Int) : Date :=
  let z := days + 719468
  let era := z / 146097
  let dayOfEra := z % 146097
  let yearOfEra := (dayOfEra - dayOfEra / 1460 + dayOfEra / 36524 - dayOfEra / 146096) / 365
  let dayOfYear := dayOfEra - (365 * yearOfEra + yearOfEra / 4 - yearOfEra / 100)
  let m := (5 * dayOfYear + 2) / 153
  let month := if m < 10 then m + 3 else m - 9
  let year := yearOfEra + era * 400 + (if month ≤ 2 then 1 else 0)
  ⟨year, month, dayOfYear - (153 * m + 2) / 5 + 1⟩

/-- The year, with a sign unless it has four digits. -/
def yearText (y : Int) : String :=
  if 0 ≤ y ∧ y ≤ 9999 then Text.padded 4 y.toNat
  else (if y < 0 then "-" else "+") ++ Text.padded 4 y.natAbs

/-- Date and time of day, without a zone. -/
def stamp (d : Date) (secondOfDay : Nat) : String :=
  yearText d.year ++ "-" ++ Text.padded 2 d.month.toNat ++ "-" ++ Text.padded 2 d.day.toNat ++ "T"
    ++ Text.padded 2 (secondOfDay / 3600) ++ ":" ++ Text.padded 2 (secondOfDay / 60 % 60) ++ ":"
    ++ Text.padded 2 (secondOfDay % 60)

/-- The text of a second since 1970, ending in `Z`; none outside the years that are written. -/
def render? (seconds : Int) : Option String :=
  let d := dateOfDays (seconds / 86400)
  if -262143 ≤ d.year ∧ d.year ≤ 262142 then some (stamp d (seconds % 86400).toNat ++ "Z") else none

/-- The text of an instant with its fraction in thousandths, millionths or billionths of a second,
whichever is the shortest exact one, ending in the offset `+00:00`. -/
def renderPrecise (seconds : Int) (nanos : Nat) : String :=
  let fraction :=
    if nanos = 0 then ""
    else if nanos % 1000000 = 0 then "." ++ Text.padded 3 (nanos / 1000000)
    else if nanos % 1000 = 0 then "." ++ Text.padded 6 (nanos / 1000)
    else "." ++ Text.padded 9 nanos
  stamp (dateOfDays (seconds / 86400)) (seconds % 86400).toNat ++ fraction ++ "+00:00"

end Utc

end RankLedger
