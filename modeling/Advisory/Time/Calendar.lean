/-!
# Days and civil dates

Days are counted from 1 January 1970 in the calendar that has a leap year every four years, except
every hundred, except every four hundred, continued before and after the years in which it was in
use. Years are counted with a year zero.

The two directions work on years that begin in March, so that the leap day is the last day of a year,
and on eras of 400 years, which are all equally long.
-/

namespace Advisory.Time

structure Date where
  year : Int
  month : Nat
  day : Nat
deriving DecidableEq, Repr

def isLeapYear (year : Int) : Bool :=
  year % 4 = 0 && (year % 100 ≠ 0 || year % 400 = 0)

def daysInMonth (year : Int) (month : Nat) : Nat :=
  if month = 2 then (if isLeapYear year then 29 else 28)
  else if month = 4 ∨ month = 6 ∨ month = 9 ∨ month = 11 then 30
  else 31

namespace Date

def isValid (d : Date) : Bool :=
  1 ≤ d.month && d.month ≤ 12 && 1 ≤ d.day && d.day ≤ daysInMonth d.year d.month

/-- Days in an era of 400 years. -/
def daysPerEra : Int := 146097

/-- Days from 1 March of year zero to 1 January 1970. -/
def epochOffset : Int := 719468

/-- The number of a day, counted from 1 January 1970. -/
def toDays (d : Date) : Int :=
  let year := if d.month ≤ 2 then d.year - 1 else d.year
  let era := year / 400
  let yearOfEra := year % 400
  let month : Int := if d.month > 2 then d.month - 3 else d.month + 9
  let dayOfYear := (153 * month + 2) / 5 + d.day - 1
  let dayOfEra := yearOfEra * 365 + yearOfEra / 4 - yearOfEra / 100 + dayOfYear
  era * daysPerEra + dayOfEra - epochOffset

/-- The date of a day, counted from 1 January 1970. -/
def ofDays (days : Int) : Date :=
  let shifted := days + epochOffset
  let era := shifted / daysPerEra
  let dayOfEra := shifted % daysPerEra
  let yearOfEra :=
    (dayOfEra - dayOfEra / 1460 + dayOfEra / 36524 - dayOfEra / 146096) / 365
  let dayOfYear := dayOfEra - (365 * yearOfEra + yearOfEra / 4 - yearOfEra / 100)
  let month := (5 * dayOfYear + 2) / 153
  let day := dayOfYear - (153 * month + 2) / 5 + 1
  let civilMonth := if month < 10 then month + 3 else month - 9
  let year := yearOfEra + era * 400 + (if civilMonth ≤ 2 then 1 else 0)
  ⟨year, civilMonth.toNat, day.toNat⟩

end Date

end Advisory.Time
