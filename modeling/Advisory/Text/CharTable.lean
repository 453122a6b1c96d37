/-!
# Tables of characters

A property of characters is a set of code points, and the sets that a standard defines are given as
tables of ranges. A table is written down as run lengths, alternately of code points outside and
inside the set, in digits to base 36 with a blank between two numbers. `CharTable.ofRuns` turns that
text into ranges, and `CharTable.contains` looks a character up.
-/

namespace Advisory.Text

/-- Ascending, disjoint ranges of code points, given by their first and last one. -/
abbrev CharTable := List (Nat × Nat)

namespace CharTable

/-- The value of a digit to base 36, small letters standing for ten and more. -/
def digitValue (c : Char) : Nat :=
  if c.isDigit then c.toNat - '0'.toNat else c.toNat - 'a'.toNat + 10

/-- The numbers of a text that separates them by blanks and line ends; `read` is the number that has
been read in part. -/
def numbers (read : Option Nat) : List Char → List Nat
  | [] => read.toList
  | c :: cs =>
    if c = ' ' ∨ c = '\n' then read.toList ++ numbers none cs
    else numbers (some (36 * read.getD 0 + digitValue c)) cs

/-- The ranges of alternating run lengths that begin at code point `start` with a run outside. -/
def ranges (start : Nat) : List Nat → CharTable
  | outside :: inside :: rest =>
    let first := start + outside
    (first, first + inside - 1) :: ranges (first + inside) rest
  | _ => []

/-- Reads the written form of a table. -/
def ofRuns (runs : String) : CharTable := ranges 0 (numbers none runs.toList)

/-- Whether a code point lies in one of the ranges. -/
def containsCode (code : Nat) : CharTable → Bool
  | [] => false
  | (first, last) :: rest =>
    if code < first then false else code ≤ last || containsCode code rest

/-- Whether a character is in the table. -/
def contains (table : CharTable) (c : Char) : Bool := table.containsCode c.toNat

end CharTable

/-- A table in written form under the names it can be asked for by. -/
structure NamedRuns where
  names : List String
  runs : String

/-- The table with a name, if there is one. -/
def NamedRuns.find? (tables : List NamedRuns) (name : String) : Option CharTable :=
  (tables.find? (·.names.contains name)).map (CharTable.ofRuns ·.runs)

end Advisory.Text
