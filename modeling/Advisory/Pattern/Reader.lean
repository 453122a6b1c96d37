import Advisory.Pattern.Class

/-!
# Reading patterns

A pattern is read from left to right with a stack of the groups that are open. On each level there
are the branches that are complete and the pieces of the branch that is being read; a bar completes a
branch, a closing parenthesis completes a level and makes it a piece of the level below.

Flags that are set inside a group hold until it ends. They are applied as the pieces are read, so the
expression that comes out is free of them.

Every piece carries its depth: how many groups, repetitions, sequences, choices and classes stand
inside each other. A pattern that is nested deeper than `maxNesting` is refused.
-/

namespace Advisory.Pattern

/-- The greatest depth of a pattern. -/
def maxNesting : Nat := 250

/-! ## Pieces and levels -/

structure Piece where
  regex : Regex Atom
  depth : Nat
  /-- Whether a repetition may follow; a change of flags cannot be repeated. -/
  repeatable : Bool
deriving Repr

namespace Piece

def ofAtom (a : Atom) : Piece := ⟨.atom a, 0, true⟩

/-- Pieces in sequence, the last one first. One piece alone stays as it is. -/
def sequence : List Piece → Piece
  | [] => ⟨.empty, 0, true⟩
  | [p] => p
  | p :: ps =>
    ⟨ps.foldl (fun r q => .seq q.regex r) p.regex,
      1 + ((p :: ps).map (·.depth)).foldl max 0, true⟩

/-- A choice of branches, the last one first. One branch alone stays as it is. -/
def choice : List Piece → Piece
  | [] => ⟨.empty, 0, true⟩
  | [p] => p
  | p :: ps =>
    ⟨ps.foldl (fun r q => .alt q.regex r) p.regex,
      1 + ((p :: ps).map (·.depth)).foldl max 0, true⟩

/-- A piece as a group. -/
def grouped (p : Piece) : Piece := ⟨p.regex, p.depth + 1, true⟩

end Piece

/-- An expression as often as one likes. To repeat so what is repeated so already changes nothing. -/
def Regex.star : Regex α → Regex α
  | repeated r 0 none => repeated r 0 none
  | repeated r 1 none => repeated r 0 none
  | repeated r 0 (some 1) => repeated r 0 none
  | r => repeated r 0 none

/-- An expression repeated. -/
def Regex.repeatedly (r : Regex α) (min : Nat) (max : Option Nat) : Regex α :=
  match r, min, max with
  | r, 0, none => r.star
  | repeated r 0 none, 1, none => repeated r 0 none
  | repeated r 0 none, 0, some 1 => repeated r 0 none
  | r, min, max => repeated r min max

/-- A level of groups while it is read. -/
structure Level where
  /-- The branches that are complete, the last one first. -/
  branches : List Piece
  /-- The pieces of the branch that is being read, the last one first. -/
  pieces : List Piece
deriving Repr

namespace Level

def start : Level := ⟨[], []⟩

def push (l : Level) (p : Piece) : Level := { l with pieces := p :: l.pieces }

/-- Completes a branch. -/
def bar (l : Level) : Level := ⟨.sequence l.pieces :: l.branches, []⟩

def finish (l : Level) : Piece := .choice (.sequence l.pieces :: l.branches)

/-- Repeats the last piece. -/
def repeatLast (l : Level) (min : Nat) (max : Option Nat) : Except Fault Level :=
  match l.pieces with
  | [] => throw .nothingToRepeat
  | p :: ps =>
    if p.repeatable then
      return { l with pieces := ⟨p.regex.repeatedly min max, p.depth + 1, true⟩ :: ps }
    else throw .nothingToRepeat

end Level

/-- What has been read of a pattern. -/
structure State where
  flags : Flags
  level : Level
  /-- The levels around it, each with the flags to return to. -/
  around : List (Level × Flags)
  /-- The names of groups so far. -/
  names : List Chars
deriving Repr

/-- The state at the beginning of a pattern. -/
def State.initial : State := ⟨.initial, .start, [], []⟩

/-- What is read of a pattern with one step. -/
inductive Directive where
  | piece (p : Piece)
  /-- A group begins, with flags of its own and perhaps a name. -/
  | opened (flags : Flags) (name : Option Chars)
  /-- The group ends. -/
  | closed
  /-- Another branch begins. -/
  | bar
  /-- The last piece is repeated. -/
  | counted (min : Nat) (max : Option Nat)
  /-- Other flags hold for the rest of the group. -/
  | flagged (flags : Flags)
deriving Repr

/-- Carries out what has been read. -/
def State.follow (s : State) : Directive → Except Fault State
  | .piece p => return { s with level := s.level.push p }
  | .opened flags name =>
    return ⟨flags, .start, (s.level, s.flags) :: s.around, name.toList ++ s.names⟩
  | .closed =>
    match s.around with
    | [] => throw .unopenedGroup
    | (level, flags) :: around =>
      return { s with flags, level := level.push s.level.finish.grouped, around }
  | .bar => return { s with level := s.level.bar }
  | .counted min max => do return { s with level := ← s.level.repeatLast min max }
  | .flagged flags => return { s with flags, level := s.level.push ⟨.empty, 0, false⟩ }

/-! ## Groups -/

/-- Letters of every script, and what counts as one. -/
def isAlphabetic (c : Char) : Bool := Table.alphabetic.contains c

/-- Whether a character may stand in the name of a group, the first one being restricted more. -/
def isNameChar (first : Bool) (c : Char) : Bool :=
  c = '_' || isAlphabetic c ||
    (!first && (c = '.' || c = '[' || c = ']' || Table.digit.contains c ||
      Table.otherNumber.contains c))

/-- The name of a group, which must not be taken. -/
def groupName (taken : List Chars) (name : Chars) : Except Fault Chars :=
  match name with
  | [] => throw .badGroupName
  | c :: cs =>
    if isNameChar true c && cs.all (isNameChar false) && !taken.contains name then return name
    else throw .badGroupName

/-- Reads up to the first character that satisfies `stop`, and this character. -/
def readUntil (stop : Char → Bool) (fault : Fault) (cs : Chars) :
    Except Fault ((Chars × Char) × Chars) :=
  match cs.dropWhile (! stop ·) with
  | [] => throw fault
  | c :: rest => return ((cs.takeWhile (! stop ·), c), rest)

/-- Reads the name of a group up to the closing angle. -/
def readNamedGroup (flags : Flags) (names : List Chars) (cs : Chars) :
    Except Fault (Directive × Chars) := do
  let ((name, _), rest) ← readUntil (· = '>') .badGroupName cs
  return (.opened flags (← groupName names name), rest)

/-- A change of flags by some letters. Before a colon it holds for the group that begins; before a
parenthesis it holds for the rest of the level. -/
def flagChange (flags : Flags) (letters : Chars) (mark : Char) : Except Fault Directive :=
  if mark = ':' then return .opened (← flags.apply true [] letters) none
  else if letters = [] then throw .nothingToRepeat
  else return .flagged (← flags.apply true [] letters)

/-- Reads the flags behind a parenthesis and a question mark. -/
def readFlagChange (flags : Flags) (cs : Chars) : Except Fault (Directive × Chars) := do
  let ((letters, mark), rest) ← readUntil (fun c => c = ':' || c = ')') .unclosedGroup cs
  return (← flagChange flags letters mark, rest)

/-- Whether a group looks ahead or behind. -/
def looksAround (cs : Chars) : Bool :=
  (dropChar '<' cs).head?.any fun c => c = '=' || c = '!'

/-- Reads the beginning of a group behind a parenthesis and a question mark. -/
def readSpecialGroup (flags : Flags) (names : List Chars) (cs : Chars) :
    Except Fault (Directive × Chars) :=
  if looksAround cs then throw .lookAround
  else
    match after? '<' (dropChar 'P' cs) with
    | some r => readNamedGroup flags names r
    | none => readFlagChange flags cs

/-- Reads the beginning of a group behind its parenthesis. -/
def readGroup (flags : Flags) (names : List Chars) (cs : Chars) :
    Except Fault (Directive × Chars) :=
  let cs := flags.skip cs
  match after? '?' cs with
  | some r => readSpecialGroup flags names r
  | none => return (.opened flags none, cs)

/-! ## Everything else -/

def Flags.caret (flags : Flags) : Look :=
  if flags.multiLine then (if flags.crlf then .lineStartCrlf else .lineStart) else .textStart

def Flags.dollar (flags : Flags) : Look :=
  if flags.multiLine then (if flags.crlf then .lineEndCrlf else .lineEnd) else .textEnd

/-- What a point stands for. -/
def Flags.dot (flags : Flags) : Except Fault CharSet :=
  if !flags.unicode then throw .splitsCharacters
  else if flags.dotNewline then return .all
  else if flags.crlf then return .complement (.union (.single '\r') (.single '\n'))
  else return .complement (.single '\n')

def Primitive.atom (flags : Flags) : Primitive → Except Fault Atom
  | literal l => return .char (← flags.literalSet l)
  | set s => return .char s
  | look l => return .look l

/-- What a character stands for that is no operator. -/
def Flags.atom (flags : Flags) (c : Char) : Except Fault Atom :=
  match c with
  | '.' => return .char (← flags.dot)
  | '^' => return .look flags.caret
  | '$' => return .look flags.dollar
  | c => return .char (← flags.literalSet ⟨c, false⟩)

/-- Reads an escape that is a piece by itself. -/
def readEscapePiece (flags : Flags) (cs : Chars) : Except Fault (Directive × Chars) := do
  let (p, rest) ← readEscape flags cs
  return (.piece (.ofAtom (← p.atom flags)), rest)

/-- Reads a class that is a piece by itself. -/
def readClassPiece (flags : Flags) (cs : Chars) : Except Fault (Directive × Chars) := do
  let (set, rest) ← readClass flags cs
  return (.piece ⟨.atom (.char set.set), set.depth, true⟩, rest)

/-- Reads the rest of a repetition: a question mark makes it take as little as possible. -/
def readCounted (min : Nat) (max : Option Nat) (cs : Chars) : Except Fault (Directive × Chars) :=
  return (.counted min max, dropChar '?' cs)

/-- Reads a repetition in braces. -/
def readRepetition (flags : Flags) (cs : Chars) : Except Fault (Directive × Chars) := do
  let ((min, max), rest) ← readCounts flags cs
  readCounted min max (flags.skip rest)

/-- Reads what begins with a character: an operator, or a piece. -/
def readDirective (flags : Flags) (names : List Chars) (c : Char) (cs : Chars) :
    Except Fault (Directive × Chars) :=
  match c with
  | '(' => readGroup flags names cs
  | ')' => return (.closed, cs)
  | '|' => return (.bar, cs)
  | '[' => readClassPiece flags cs
  | '?' => readCounted 0 (some 1) cs
  | '*' => readCounted 0 none cs
  | '+' => readCounted 1 none cs
  | '\x7b' => readRepetition flags cs
  | '\\' => readEscapePiece flags cs
  | c => do return (.piece (.ofAtom (← flags.atom c)), cs)

/-- Reads on to the end of the pattern. The number bounds the steps; each takes a character. -/
def State.run : Nat → State → Chars → Except Fault State
  | 0, s, _ => return s
  | n + 1, s, cs =>
    match s.flags.skip cs with
    | [] => return s
    | c :: rest => do
      let (d, rest) ← readDirective s.flags s.names c rest
      (← s.follow d).run n rest

def readPattern (cs : Chars) : Except Fault (Regex Atom) := do
  let s ← State.initial.run (cs.length + 1) cs
  if s.around ≠ [] then throw .unclosedGroup
  let p := s.level.finish
  if p.depth > maxNesting then throw .tooDeep
  return p.regex

end Advisory.Pattern
