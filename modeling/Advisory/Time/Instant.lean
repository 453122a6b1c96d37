import Advisory.Number.Binary64
import Advisory.Time.Calendar

/-!
# Instants and how they are written

An instant is a second, counted from the beginning of 1970 in UTC, and nanoseconds within it. In a
leap second, which has no number of its own, the nanoseconds go on counting past the end of the second
before.

Written instants give date, time and offset. The fraction is left out if it is zero and otherwise has
as few as possible of three, six or nine digits. The offset is zero throughout; answers write it as
numbers, the freshness record as a letter.
-/

namespace Advisory.Time

/-- A point in time. Two thousand million nanoseconds and more do not occur. -/
structure Instant where
  seconds : Int
  nanos : Nat
deriving DecidableEq, Repr

namespace Instant

def nanosPerSecond : Nat := 1000000000

def secondsPerDay : Int := 86400

/-- Whether one instant is before another. A leap second is after the second it follows and before
the next one. -/
def isBefore (a b : Instant) : Bool :=
  a.seconds < b.seconds || (a.seconds = b.seconds && a.nanos < b.nanos)

/-- Decimal digits of a number, with zeros in front up to some width. -/
def padded (width n : Nat) : List Char :=
  Binary64.padLeft width (Nat.toDigits 10 n)

/-- A year: four digits, and a sign and at least four digits outside of 0 to 9999. -/
def renderYear (year : Int) : List Char :=
  if year < 0 then '-' :: padded 4 year.natAbs
  else if year > 9999 then '+' :: padded 4 year.natAbs
  else padded 4 year.natAbs

/-- The fraction of a second, with a point in front; nothing if it is zero. -/
def renderFraction (nanos : Nat) : List Char :=
  if nanos = 0 then []
  else if nanos % 1000000 = 0 then '.' :: padded 3 (nanos / 1000000)
  else if nanos % 1000 = 0 then '.' :: padded 6 (nanos / 1000)
  else '.' :: padded 9 nanos

/-- Writes an instant, with some spelling of the zero offset at the end. -/
def renderWith (offset : String) (t : Instant) : String :=
  let date := Date.ofDays (t.seconds / secondsPerDay)
  let inDay := (t.seconds % secondsPerDay).toNat
  let leap := t.nanos / nanosPerSecond
  String.ofList (
    renderYear date.year ++ ['-'] ++ padded 2 date.month ++ ['-'] ++ padded 2 date.day ++ ['T'] ++
    padded 2 (inDay / 3600) ++ [':'] ++ padded 2 (inDay / 60 % 60) ++ [':'] ++
    padded 2 (inDay % 60 + leap) ++ renderFraction (t.nanos % nanosPerSecond) ++ offset.toList)

/-- Writes an instant as answers show it. -/
def render (t : Instant) : String := t.renderWith "+00:00"

/-- Writes an instant as the freshness record shows it. -/
def renderZulu (t : Instant) : String := t.renderWith "Z"

end Instant

/-- An absent date is written as an empty text. -/
def renderDate (date : Option Instant) : String :=
  match date with
  | some t => t.render
  | none => ""

/-- Whether a date lies strictly after an instant. An absent date does not. -/
def isAfter (date : Option Instant) (since : Instant) : Bool :=
  match date with
  | some t => since.isBefore t
  | none => false

end Advisory.Time
