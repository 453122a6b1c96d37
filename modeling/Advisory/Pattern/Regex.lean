import Advisory.Pattern.CharSet

/-!
# Regular expressions and what they match

A regular expression is built from atoms, which either take one character or look at the place
between two, by sequence, choice and counted repetition. `Regex.Matches` says which stretches of a
text an expression matches; it is the meaning, and the module on matching computes it.

Nothing here knows about greed or groups: only whether there is a match is ever asked.
-/

namespace Advisory.Pattern

/-! ## Places between characters -/

/-- Which characters make up words. -/
inductive WordClass where
  | ascii
  | unicode
deriving DecidableEq, Repr

def WordClass.mem (c : Char) : WordClass → Bool
  | ascii => CharSet.asciiWord.mem c
  | unicode => CharSet.asciiWord.mem c || Table.word.contains c

/-- What may be asked of the characters on both sides of a place. -/
inductive WordEdge where
  | boundary
  | noBoundary
  | start
  | finish
  /-- No word before. -/
  | startHalf
  /-- No word behind. -/
  | finishHalf
deriving DecidableEq, Repr

/-- What is asked, given whether there is a word character before and behind. -/
def WordEdge.holds (before behind : Bool) : WordEdge → Bool
  | boundary => before != behind
  | noBoundary => before == behind
  | start => !before && behind
  | finish => before && !behind
  | startHalf => !before
  | finishHalf => !behind

/-- A condition on a place in the text. -/
inductive Look where
  | textStart
  | textEnd
  | lineStart
  | lineEnd
  /-- As `lineStart`, where a carriage return may end a line, too. -/
  | lineStartCrlf
  /-- As `lineEnd`, where a carriage return may end a line, too. -/
  | lineEndCrlf
  | word (edge : WordEdge) (words : WordClass)
deriving DecidableEq, Repr

/-- The character before a place. -/
def charBefore? (text : Array Char) (i : Nat) : Option Char :=
  if i = 0 then none else text[i - 1]?

/-- Whether a condition holds at place `i`, which is in front of character `i`. -/
def Look.holds (text : Array Char) (i : Nat) : Look → Bool
  | textStart => i = 0
  | textEnd => i = text.size
  | lineStart => i = 0 || charBefore? text i = some '\n'
  | lineEnd => i = text.size || text[i]? = some '\n'
  | lineStartCrlf =>
    i = 0 || charBefore? text i = some '\n' ||
      (charBefore? text i = some '\r' && text[i]? ≠ some '\n')
  | lineEndCrlf =>
    i = text.size || text[i]? = some '\r' ||
      (text[i]? = some '\n' && charBefore? text i ≠ some '\r')
  | word edge words =>
    edge.holds ((charBefore? text i).any words.mem) (text[i]?.any words.mem)

/-! ## Expressions -/

/-- A regular expression over some kind of atoms. -/
inductive Regex (α : Type) where
  | empty
  | atom (a : α)
  | seq (r s : Regex α)
  | alt (r s : Regex α)
  /-- At least `min` times, at most `max` times or as often as there is text. -/
  | repeated (r : Regex α) (min : Nat) (max : Option Nat)
deriving Repr

/-- The same expression over other atoms. -/
def Regex.map (f : α → β) : Regex α → Regex β
  | empty => empty
  | atom a => atom (f a)
  | seq r s => seq (r.map f) (s.map f)
  | alt r s => alt (r.map f) (s.map f)
  | repeated r min max => repeated (r.map f) min max

/-- The atoms of a pattern: a character of a set, or a condition on a place. -/
inductive Atom where
  | char (s : CharSet)
  | look (l : Look)
deriving Repr

/-- Whether an atom leads from place `i` to place `j`. -/
def Atom.leads (text : Array Char) (i j : Nat) : Atom → Bool
  | char s => j = i + 1 && text[i]?.any fun c => s.mem c
  | look l => j = i && i ≤ text.size && l.holds text i

/-- The stretches of a text that an expression matches, given by their two ends. -/
inductive Regex.Matches (text : Array Char) : Regex Atom → Nat → Nat → Prop where
  | empty {i} (h : i ≤ text.size) : Matches text .empty i i
  | atom {a i j} (h : a.leads text i j) : Matches text (.atom a) i j
  | seq {r s i j k} (hr : Matches text r i j) (hs : Matches text s j k) :
    Matches text (.seq r s) i k
  | altLeft {r s i j} (h : Matches text r i j) : Matches text (.alt r s) i j
  | altRight {r s i j} (h : Matches text s i j) : Matches text (.alt r s) i j
  | done {r max i} (h : i ≤ text.size) : Matches text (.repeated r 0 max) i i
  | more {r min max i j k} (hmax : max ≠ some 0) (hr : Matches text r i j)
    (hs : Matches text (.repeated r (min - 1) (max.map (· - 1))) j k) :
    Matches text (.repeated r min max) i k

end Advisory.Pattern
