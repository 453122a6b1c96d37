import Advisory.Time.Reading

/-!
# Dates in requests

A request gives an instant as date, time and offset. The offset is required; date and time may be
separated by the letter T or a blank, and white space is allowed in front of every number, in front
of every dash and colon, and around the offset.
-/

namespace Advisory.Time

open Advisory.Text (trimStart)

/-- A number after a mark, white space before both allowed. -/
def readMarkedPart (mark : Char) (cs : List Char) : Option (Nat × List Char) := do
  readPart (← afterMark mark (trimStart cs))

/-- The offset of a request date, which may also be the name of UTC in any case. -/
def readRequestOffset (cs : List Char) : Option (Int × List Char) :=
  match cs with
  | a :: b :: c :: rest =>
    if a.toLower = 'u' ∧ b.toLower = 't' ∧ c.toLower = 'c' then some (0, rest)
    else readOffset .required cs
  | _ => readOffset .required cs

/-- The instant that a request names. -/
def requestDate? (s : String) : Option Instant := do
  let (year, cs) ← readYear s.toList
  let (month, cs) ← readMarkedPart '-' cs
  let (day, cs) ← readMarkedPart '-' cs
  let cs ←
    match cs with
    | c :: r => if c = 'T' ∨ c = 't' ∨ c = ' ' then some r else none
    | [] => none
  let (hour, cs) ← readPart cs
  let (minute, cs) ← readMarkedPart ':' cs
  let (second, cs) ← readMarkedPart ':' cs
  let (nanos, cs) ← readFraction cs
  let (offset, cs) ← readRequestOffset (trimStart cs)
  guard (trimStart cs = [])
  WallClock.instant? ⟨⟨year, month, day⟩, hour, minute, second, nanos⟩ offset

end Advisory.Time
