import Advisory.Text.Blank
import Advisory.Time.Instant

/-!
# Reading the parts of a date

Two kinds of date come in, one in requests and one in snapshots. They share their parts, and both are
lenient: a part may have fewer digits than usual, and white space may stand in front of every number.
A reader of a part takes it from the front of the text and leaves the rest.

`WallClock.instant?` decides which combinations of parts are a time at all.
-/

namespace Advisory.Time

open Advisory.Text (trimStart isBlank)

/-! ## Numbers and marks -/

/-- The number of decimal digits. -/
def digitsValue (digits : List Char) : Nat :=
  digits.foldl (fun n c => 10 * n + (c.toNat - '0'.toNat)) 0

/-- A number of at least one and at most `width` digits. -/
def readDigits (width : Nat) (cs : List Char) : Option (Nat × List Char) :=
  let digits := (cs.take width).takeWhile Char.isDigit
  if digits = [] then none else some (digitsValue digits, cs.drop digits.length)

/-- A number of one or two digits, white space before it allowed. -/
def readPart (cs : List Char) : Option (Nat × List Char) := readDigits 2 (trimStart cs)

/-- A year: up to four digits, or a sign and any number of digits. -/
def readYear (cs : List Char) : Option (Int × List Char) :=
  match trimStart cs with
  | '-' :: r => (readDigits r.length r).map fun (n, rest) => (-(n : Int), rest)
  | '+' :: r => (readDigits r.length r).map fun (n, rest) => ((n : Int), rest)
  | r => (readDigits 4 r).map fun (n, rest) => ((n : Int), rest)

/-- What follows a given character. -/
def afterMark (mark : Char) : List Char → Option (List Char)
  | c :: cs => if c = mark then some cs else none
  | [] => none

/-- The nanoseconds of a fraction, zero if no point follows. Digits after the ninth are dropped. -/
def readFraction : List Char → Option (Nat × List Char)
  | '.' :: cs =>
    let digits := cs.takeWhile Char.isDigit
    if digits = [] then none
    else
      let kept := digits.take 9
      some (digitsValue kept * Nat.pow 10 (9 - kept.length), cs.drop digits.length)
  | cs => some (0, cs)

/-! ## Offsets -/

/-- Whether the minutes of an offset may be left out. -/
inductive Minutes where
  | required
  | optional
deriving DecidableEq, Repr

def readTwoDigits : List Char → Option (Nat × List Char)
  | a :: b :: cs => if a.isDigit && b.isDigit then some (digitsValue [a, b], cs) else none
  | _ => none

/-- The seconds by which a clock is ahead of UTC: the letter Z, or a sign, hours, and minutes, with
colons and white space between the two allowed. The sign may be a minus sign proper. -/
def readOffset (minutes : Minutes) (cs : List Char) : Option (Int × List Char) :=
  match cs with
  | [] => none
  | sign :: rest =>
    if sign = 'Z' ∨ sign = 'z' then some (0, rest)
    else if sign = '+' ∨ sign = '-' ∨ sign = '\u2212' then do
      let (hours, rest) ← readTwoDigits rest
      let rest := rest.dropWhile fun c => c = ':' || isBlank c
      let (mins, rest) ←
        if rest = [] ∧ minutes = .optional then some (0, [])
        else readTwoDigits rest
      guard (mins ≤ 59)
      let offset : Int := hours * 3600 + mins * 60
      return (if sign = '+' then offset else -offset, rest)
    else none

/-! ## Clocks -/

/-- What a clock and a calendar on the wall show. -/
structure WallClock where
  date : Date
  hour : Nat
  minute : Nat
  second : Nat
  nanos : Nat
deriving DecidableEq, Repr

namespace WallClock

/-- The first year that dates reach. -/
def minYear : Int := -262143

/-- The last year that dates reach. -/
def maxYear : Int := 262142

/-- The years in which dates exist. -/
def isYear (year : Int) : Bool := minYear ≤ year && year ≤ maxYear

/-- Whether the parts are a time. Second 60 is a leap second and may stand in any minute. -/
def isValid (w : WallClock) : Bool :=
  isYear w.date.year && w.date.isValid && w.hour ≤ 23 && w.minute ≤ 59 && w.second ≤ 60

/-- The instant at which a clock that is `offset` seconds ahead of UTC shows a time. An offset is less
than a day, and the year must exist on both clocks. -/
def instant? (w : WallClock) (offset : Int) : Option Instant :=
  let leap := w.second / 60
  let seconds := w.date.toDays * Instant.secondsPerDay +
    (w.hour * 3600 + w.minute * 60 + (w.second - leap) : Nat) - offset
  if w.isValid ∧ offset.natAbs < 86400 ∧
      isYear (Date.ofDays (seconds / Instant.secondsPerDay)).year then
    some ⟨seconds, w.nanos + leap * Instant.nanosPerSecond⟩
  else none

end WallClock

end Advisory.Time
