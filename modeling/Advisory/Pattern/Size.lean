import Advisory.Pattern.Regex

/-!
# The size of an expression

A short pattern can describe a huge automaton, because a counted repetition stands for as many copies
of what it repeats. The size of an expression is about the number of bytes that the states of such an
automaton would take, and a pattern above `maxSize` is refused.

The exact figure depends on how an automaton is laid out, and it is only approximated here. What
matters is that copies multiply and that a set of characters costs more the more ranges it has.
-/

namespace Advisory.Pattern

/-- The greatest size of an expression. -/
def maxSize : Nat := 10 * Nat.pow 2 20

/-- The size of one state. -/
def stateSize : Nat := 32

/-- About how many ranges of characters a set has. -/
def CharSet.rangeCount : CharSet → Nat
  | empty => 0
  | range _ _ => 1
  | table t => t.length
  | blank => 10
  | complement s => s.rangeCount + 1
  | union s t => s.rangeCount + t.rangeCount
  | inter s t => min s.rangeCount t.rangeCount
  | diff s t => s.rangeCount + t.rangeCount
  | symmDiff s t => s.rangeCount + t.rangeCount
  | foldCase s => 2 * s.rangeCount
  | foldAscii s => 2 * s.rangeCount

/-- The size of an atom. A character takes a state for each of its bytes; a set takes two states for
every range and some more if it reaches to the end of the characters, where they have four bytes. -/
def Atom.size : Atom → Nat
  | look _ => stateSize
  | char (.range first last) =>
    if first = last then stateSize * first.utf8Size else 3 * stateSize
  | char s =>
    2 * stateSize * (s.rangeCount + 1) + (if s.mem (Char.ofNat 0x10FFFF) then 30 * stateSize else 0)

namespace Regex

/-- Whether an expression never takes a character. To repeat it is to use it once. -/
def takesNothing : Regex Atom → Bool
  | empty => true
  | atom (.look _) => true
  | atom (.char _) => false
  | seq r s => r.takesNothing && s.takesNothing
  | alt r s => r.takesNothing && s.takesNothing
  | repeated r _ max => r.takesNothing || max = some 0

def size : Regex Atom → Nat
  | empty => 0
  | atom a => a.size
  | seq r s => r.size + s.size
  | alt r s => r.size + s.size + stateSize
  | repeated r min max =>
    if r.takesNothing then r.size + stateSize
    else
      match max with
      | none => (Nat.max min 1) * r.size + 2 * stateSize
      | some max => min * r.size + (max - min) * (r.size + stateSize)

end Regex

end Advisory.Pattern
