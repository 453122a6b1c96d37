import Advisory.Time.Reading

/-!
# Dates in snapshots

A snapshot gives an instant as date, time and, if it likes, offset. The separator is the letter T if
that is what stands at the eleventh byte, and otherwise any amount of white space. Without an offset
the clock shows UTC. Nothing may follow.
-/

namespace Advisory.Time

open Advisory.Text (trimStart)

/-- Whether the eleventh byte of a text is the letter T; `bytes` are to be passed first. -/
def hasTAt (bytes : Nat) : List Char → Bool
  | [] => false
  | c :: cs =>
    if bytes = 0 then c = 'T'
    else if c.utf8Size ≤ bytes then hasTAt (bytes - c.utf8Size) cs
    else false

/-- The clock of a snapshot date, and what follows it. -/
def readSnapshotClock (s : String) : Option (WallClock × List Char) := do
  let (year, cs) ← readYear s.toList
  let (month, cs) ← readPart (← afterMark '-' cs)
  let (day, cs) ← readPart (← afterMark '-' cs)
  let cs ← if hasTAt 10 s.toList then afterMark 'T' cs else some (trimStart cs)
  let (hour, cs) ← readPart cs
  let (minute, cs) ← readPart (← afterMark ':' cs)
  let (second, cs) ← readPart (← afterMark ':' cs)
  let (nanos, cs) ← readFraction cs
  return (⟨⟨year, month, day⟩, hour, minute, second, nanos⟩, cs)

/-- The instant that a snapshot names. -/
def snapshotDate? (s : String) : Option Instant := do
  let (clock, cs) ← readSnapshotClock s
  if cs = [] then clock.instant? 0
  else
    let (offset, cs) ← readOffset .optional (trimStart cs)
    guard (cs = [])
    clock.instant? offset

end Advisory.Time
