import Advisory.Pattern.Table.Folding
import Advisory.Pattern.Table.Word
import Advisory.Text.Blank
import Advisory.Text.CharTable

/-!
# Sets of characters

A set is kept as the expression that defines it: ranges, the Boolean operations, and closure under
case. Membership evaluates the expression, so every operation of a bracketed class is one constructor
and means what it says; no arithmetic on ranges is needed.
-/

namespace Advisory.Pattern

open Advisory.Text (CharTable isBlank)

/-! ## Case -/

/-- A code point in hexadecimal digits. -/
def hexCode (digits : List Char) : Nat :=
  digits.foldl (fun n c => 16 * n + CharTable.digitValue c) 0

/-- The code points of a group, which are separated by points; `code` holds the digits of the one
being read, the last one first. -/
def groupCodes (code : List Char) : List Char → List Nat
  | [] => [hexCode code.reverse]
  | c :: cs => if c = '.' then hexCode code.reverse :: groupCodes [] cs else groupCodes (c :: code) cs

/-- The groups of code points that differ in case only. -/
def foldTable : List (List Nat) :=
  (Table.foldGroups.splitOn " ").map fun g => groupCodes [] g.toList

/-- A character and all that differ from it in case only. -/
def caseVariants (c : Char) : List Char :=
  match foldTable.find? (·.contains c.toNat) with
  | some codes => codes.map Char.ofNat
  | none => [c]

/-- The same among ASCII characters. -/
def asciiCaseVariants (c : Char) : List Char :=
  if c.isLower then [c, c.toUpper] else if c.isUpper then [c, c.toLower] else [c]

/-! ## Sets -/

/-- A set of characters. -/
inductive CharSet where
  | empty
  | range (first last : Char)
  | table (t : CharTable)
  | blank
  | complement (s : CharSet)
  | union (s t : CharSet)
  | inter (s t : CharSet)
  | diff (s t : CharSet)
  | symmDiff (s t : CharSet)
  /-- Closed under differences in case. -/
  | foldCase (s : CharSet)
  /-- Closed under differences in case among ASCII letters. -/
  | foldAscii (s : CharSet)
deriving Repr

namespace CharSet

def mem (c : Char) : CharSet → Bool
  | empty => false
  | range first last => first ≤ c && c ≤ last
  | table t => t.contains c
  | blank => isBlank c
  | complement s => !s.mem c
  | union s t => s.mem c || t.mem c
  | inter s t => s.mem c && t.mem c
  | diff s t => s.mem c && !t.mem c
  | symmDiff s t => s.mem c ^^ t.mem c
  | foldCase s => (caseVariants c).any fun d => s.mem d
  | foldAscii s => (asciiCaseVariants c).any fun d => s.mem d

def single (c : Char) : CharSet := range c c

def unionAll (sets : List CharSet) : CharSet := sets.foldl union empty

def all : CharSet := complement empty

/-- Whether a set that is put together from ASCII sets stays within ASCII. Such a set treats all
other characters alike, so the first of them answers for all. -/
def isAscii (s : CharSet) : Bool := !s.mem '\u0080'

/-! ### Well-known sets -/

def asciiDigit : CharSet := range '0' '9'

def asciiAlpha : CharSet := union (range 'a' 'z') (range 'A' 'Z')

/-- ASCII letters, digits and the underscore. -/
def asciiWord : CharSet := union (union asciiAlpha asciiDigit) (single '_')

/-- ASCII white space. -/
def asciiBlank : CharSet := union (range '\t' '\x0d') (single ' ')

/-- The ASCII classes that a bracketed class may name. -/
def named? (name : String) : Option CharSet :=
  match name with
  | "alnum" => some (union asciiAlpha asciiDigit)
  | "alpha" => some asciiAlpha
  | "ascii" => some (range '\x00' '\x7f')
  | "blank" => some (union (single '\t') (single ' '))
  | "cntrl" => some (union (range '\x00' '\x1f') (single '\x7f'))
  | "digit" => some asciiDigit
  | "graph" => some (range '!' '~')
  | "lower" => some (range 'a' 'z')
  | "print" => some (range ' ' '~')
  | "punct" => some (unionAll [range '!' '/', range ':' '@', range '[' '\x60', range '\x7b' '~'])
  | "space" => some asciiBlank
  | "upper" => some (range 'A' 'Z')
  | "word" => some asciiWord
  | "xdigit" => some (unionAll [asciiDigit, range 'A' 'F', range 'a' 'f'])
  | _ => none

end CharSet

end Advisory.Pattern
