import Advisory.Pattern.Fault
import Advisory.Pattern.Property
import Advisory.Pattern.Regex

/-!
# The pieces of a pattern

Readers for what a pattern is made of below the level of groups: flags, escapes, counts. Each takes a
piece from the front of the characters and returns what is left.

A pattern may ask for white space and comments to be passed over. Where they may stand is decided
piece by piece: between the digits of a count or a code point they are passed over as well, within a
run of flags they are not.
-/

namespace Advisory.Pattern

open Advisory.Text (isBlank)

/-- The characters that are still to be read. -/
abbrev Chars := List Char

/-- What stands behind a character, if that comes next. -/
def after? (c : Char) : Chars → Option Chars
  | [] => none
  | d :: cs => if d = c then some cs else none

/-- Passes over a character, if that comes next. -/
def dropChar (c : Char) (cs : Chars) : Chars := (after? c cs).getD cs

/-! ## Flags -/

/-- How a pattern is to be read from here on. -/
structure Flags where
  ignoreCase : Bool
  multiLine : Bool
  dotNewline : Bool
  swapGreed : Bool
  unicode : Bool
  crlf : Bool
  verbose : Bool
deriving DecidableEq, Repr

namespace Flags

/-- The flags at the beginning of a pattern: characters of all scripts, nothing else. -/
def initial : Flags := ⟨false, false, false, false, true, false, false⟩

/-- Sets the flag with a letter. -/
def set? (flags : Flags) (letter : Char) (value : Bool) : Option Flags :=
  match letter with
  | 'i' => some { flags with ignoreCase := value }
  | 'm' => some { flags with multiLine := value }
  | 's' => some { flags with dotNewline := value }
  | 'U' => some { flags with swapGreed := value }
  | 'u' => some { flags with unicode := value }
  | 'R' => some { flags with crlf := value }
  | 'x' => some { flags with verbose := value }
  | _ => none

/-- Applies a run of letters, those after a dash switched off. No letter may occur twice, nor the
dash, and the dash may not come last. -/
def apply (flags : Flags) (value : Bool) (seen : List Char) : List Char → Except Fault Flags
  | [] => if seen.head? = some '-' then throw .badFlags else return flags
  | c :: cs =>
    if c ∈ seen then throw .badFlags
    else if c = '-' then flags.apply false (c :: seen) cs
    else
      match flags.set? c value with
      | some flags' => flags'.apply value (c :: seen) cs
      | none => throw .badFlags

end Flags

/-! ## White space -/

/-- Passes over white space and comments, which run to the end of the line. -/
def skipComments (inComment : Bool) : Chars → Chars
  | [] => []
  | c :: cs =>
    if inComment then skipComments (c ≠ '\n') cs
    else if isBlank c then skipComments false cs
    else if c = '#' then skipComments true cs
    else c :: cs

/-- Passes over what does not count, if the pattern says that it does not. -/
def Flags.skip (flags : Flags) (cs : Chars) : Chars :=
  if flags.verbose then skipComments false cs else cs

/-- The character that comes next, seen past white space and the sign of one comment. -/
def Flags.next? (flags : Flags) (cs : Chars) : Option Char :=
  if flags.verbose then
    let visible := cs.dropWhile isBlank
    match after? '#' visible with
    | some rest => (rest.dropWhile isBlank).head? <|> cs.head?
    | none => visible.head? <|> cs.head?
  else cs.head?

/-- Takes the characters that satisfy `p`, passing over what does not count after each. The number
bounds how many there can be. -/
def Flags.takeWhile (flags : Flags) (p : Char → Bool) : Nat → Chars → Chars × Chars
  | 0, cs => ([], cs)
  | _ + 1, [] => ([], [])
  | n + 1, c :: cs =>
    if p c then
      let (taken, rest) := flags.takeWhile p n (flags.skip cs)
      (c :: taken, rest)
    else ([], c :: cs)

/-- Reads the characters that satisfy `p`. -/
def readWhile (flags : Flags) (p : Char → Bool) (cs : Chars) : Except Fault (Chars × Chars) :=
  return flags.takeWhile p cs.length cs

/-- Reads the character that has to come next. -/
def readChar (c : Char) (fault : Fault) (cs : Chars) : Except Fault (Char × Chars) :=
  match after? c cs with
  | some rest => return (c, rest)
  | none => throw fault

/-! ## Code points -/

def isHex (c : Char) : Bool :=
  c.isDigit || ('a' ≤ c && c ≤ 'f') || ('A' ≤ c && c ≤ 'F')

/-- The character with a code point given in hexadecimal digits. -/
def charOfHex (digits : Chars) : Except Fault Char :=
  let code := hexCode (digits.map Char.toLower)
  if digits ≠ [] ∧ digits.all isHex ∧ (code < 0xD800 ∨ (0xDFFF < code ∧ code < 0x110000)) then
    return Char.ofNat code
  else throw .badCodePoint

/-- Takes some number of hexadecimal digits. -/
def Flags.takeHex (flags : Flags) : Nat → Chars → Except Fault (Chars × Chars)
  | 0, cs => return ([], cs)
  | _ + 1, [] => throw .unfinishedEscape
  | n + 1, c :: cs =>
    if isHex c then do
      let (taken, rest) ← flags.takeHex n (flags.skip cs)
      return (c :: taken, rest)
    else throw .badCodePoint

/-- A character as a pattern names it. A code point of two hexadecimal digits stands for a byte where
bytes are matched. -/
structure Literal where
  char : Char
  isByte : Bool
deriving DecidableEq, Repr

/-- Reads what stands in braces, behind the opening one and up to the closing one. -/
def readBraced (flags : Flags) (cs : Chars) : Except Fault (Chars × Chars) := do
  let (name, rest) ← readWhile flags (· ≠ '\x7d') (flags.skip cs)
  let (_, rest) ← readChar '\x7d' .unfinishedEscape rest
  return (name, rest)

/-- Reads the code point after the letter `x`, `u` or `U` of an escape: a fixed number of digits, or
any number in braces. -/
def readCodePoint (flags : Flags) (letter : Char) (cs : Chars) : Except Fault (Literal × Chars) :=
  let digits := if letter = 'x' then 2 else if letter = 'u' then 4 else 8
  let cs := flags.skip cs
  match after? '\x7b' cs with
  | some r => do
    let (hex, rest) ← readBraced flags r
    return (⟨← charOfHex hex, false⟩, flags.skip rest)
  | none => do
    let (hex, rest) ← flags.takeHex digits cs
    return (⟨← charOfHex hex, letter = 'x'⟩, rest)

/-! ## Sets that have a name or a letter -/

/-- Closes a set under differences in case, if the pattern ignores them. -/
def Flags.fold (flags : Flags) (s : CharSet) : CharSet :=
  if flags.ignoreCase then (if flags.unicode then .foldCase s else .foldAscii s) else s

/-- The set of one character as a pattern names it. Matched by byte, a byte outside ASCII would be
part of a character. -/
def Flags.literalSet (flags : Flags) (l : Literal) : Except Fault CharSet :=
  if !flags.unicode && l.isByte && l.char.toNat > 0x7F then throw .splitsCharacters
  else return flags.fold (.single l.char)

/-- The complement of a set, if wanted. Matched by byte, the result must stay within ASCII. -/
def Flags.complementIf (flags : Flags) (negated : Bool) (s : CharSet) : Except Fault CharSet :=
  let s := if negated then .complement s else s
  if !flags.unicode && !s.isAscii then throw .splitsCharacters else return s

/-- The digits, blanks or word characters that a letter stands for, or all others if the letter is a
capital. -/
def letterSet (flags : Flags) (letter : Char) : Except Fault CharSet :=
  let s :=
    match letter.toLower with
    | 'd' => if flags.unicode then .table Table.digit else .asciiDigit
    | 's' => if flags.unicode then .blank else .asciiBlank
    | _ => if flags.unicode then .table Table.word else .asciiWord
  flags.complementIf letter.isUpper s

/-- Where a text first has one of two marks: what is before it, the mark, and what is behind. -/
def splitAtMark (mark : Chars) : Chars → Option (Chars × Chars)
  | [] => none
  | c :: cs =>
    if mark.isPrefixOf (c :: cs) then some ([], (c :: cs).drop mark.length)
    else (splitAtMark mark cs).map fun (before, behind) => (c :: before, behind)

/-- The characters that a name in braces stands for, and whether all others are meant. -/
def namedSet (name : Chars) : Option (CharSet × Bool) :=
  match splitAtMark ['!', '='] name with
  | some (property, value) => (propertyValue? property value).map (·, true)
  | none =>
    match splitAtMark [':'] name <|> splitAtMark ['='] name with
    | some (property, value) => (propertyValue? property value).map (·, false)
    | none => (property? name).map (·, false)

/-- Reads the name of a property that has one character. -/
def readPropertyLetter (flags : Flags) : Chars → Except Fault (Chars × Chars)
  | [] => throw .unfinishedEscape
  | c :: r => if c = '\\' then throw .unknownProperty else return ([c], flags.skip r)

/-- Reads the name of a property: one character, or any number in braces. -/
def readPropertyName (flags : Flags) (cs : Chars) : Except Fault (Chars × Chars) :=
  let cs := flags.skip cs
  match after? '\x7b' cs with
  | some r => readBraced flags r
  | none => readPropertyLetter flags cs

/-- The characters with a property that is asked for by the letter `p`, or all others if it is asked
for by `P`. -/
def propertySet (flags : Flags) (letter : Char) (name : Chars) : Except Fault CharSet :=
  if !flags.unicode then throw .propertyOfBytes
  else
    match namedSet name with
    | none => throw .unknownProperty
    | some (s, others) => flags.complementIf (others != (letter = 'P')) (flags.fold s)

/-- Reads the property after the letter `p` of an escape, or after `P`. -/
def readProperty (flags : Flags) (letter : Char) (cs : Chars) : Except Fault (CharSet × Chars) := do
  let (name, rest) ← readPropertyName flags cs
  return (← propertySet flags letter name, rest)

/-! ## Escapes -/

/-- What one character or escape of a pattern stands for. -/
inductive Primitive where
  | literal (l : Literal)
  | set (s : CharSet)
  | look (l : Look)
deriving Repr

/-- Punctuation that has a meaning somewhere in a pattern, and more that may be escaped: all of ASCII
but letters, digits and angles. -/
def isEscapable (c : Char) : Bool :=
  c.toNat ≤ 0x7F && !c.isAlphanum && c ≠ '<' && c ≠ '>'

/-- The word classes that the flags select. -/
def Flags.words (flags : Flags) : WordClass := if flags.unicode then .unicode else .ascii

/-- A word boundary by its name. -/
def namedEdge (name : Chars) : Except Fault WordEdge :=
  match String.ofList name with
  | "start" => return .start
  | "end" => return .finish
  | "start-half" => return .startHalf
  | "end-half" => return .finishHalf
  | _ => throw .badWordBoundary

/-- Whether a character may occur in the name of a word boundary. -/
def isEdgeChar (c : Char) : Bool := c.isAlpha || c = '-'

/-- Reads the name of a word boundary and its closing brace. -/
def readEdge (flags : Flags) (cs : Chars) : Except Fault (WordEdge × Chars) := do
  let (name, rest) ← readWhile flags isEdgeChar (flags.skip cs)
  let (_, rest) ← readChar '\x7d' .badWordBoundary rest
  return (← namedEdge name, rest)

/-- Reads the word boundary after a backslash and `b`. A name in braces may follow; braces that do not
begin like one are a count of repetitions and left alone. -/
def readBoundary (flags : Flags) (cs : Chars) : Except Fault (WordEdge × Chars) :=
  match after? '\x7b' cs with
  | some r =>
    match flags.skip r with
    | [] => throw .badWordBoundary
    | c :: _ => if isEdgeChar c then readEdge flags r else return (.boundary, cs)
  | none => return (.boundary, cs)

/-- What an escape of one character stands for. -/
def singleEscape (flags : Flags) (c : Char) : Except Fault Primitive :=
  let plain (c : Char) : Except Fault Primitive := return .literal ⟨c, false⟩
  if c.isDigit then throw .backreference
  else if isEscapable c then plain c
  else
    match c with
    | 'd' | 's' | 'w' | 'D' | 'S' | 'W' => return .set (← letterSet flags c)
    | 'a' => plain '\x07'
    | 'f' => plain '\x0c'
    | 't' => plain '\t'
    | 'n' => plain '\n'
    | 'r' => plain '\r'
    | 'v' => plain '\x0b'
    | 'A' => return .look .textStart
    | 'z' => return .look .textEnd
    | 'B' => return .look (.word .noBoundary flags.words)
    | '<' => return .look (.word .start flags.words)
    | '>' => return .look (.word .finish flags.words)
    | _ => throw .unknownEscape

/-- Reads what follows a backslash. -/
def readEscape (flags : Flags) (cs : Chars) : Except Fault (Primitive × Chars) :=
  match cs with
  | [] => throw .unfinishedEscape
  | c :: r => do
    if c = 'x' ∨ c = 'u' ∨ c = 'U' then
      let (l, rest) ← readCodePoint flags c r
      return (.literal l, rest)
    else if c = 'p' ∨ c = 'P' then
      let (s, rest) ← readProperty flags c r
      return (.set s, rest)
    else if c = 'b' then
      let (edge, rest) ← readBoundary flags r
      return (.look (.word edge flags.words), rest)
    else return (← singleEscape flags c, r)

/-! ## Counts -/

/-- Counts are unsigned 32-bit numbers. -/
def maxCount : Nat := Nat.pow 2 32 - 1

/-- The number with some decimal digits. -/
def countOf (digits : Chars) : Except Fault Nat :=
  let n := digits.foldl (fun n c => 10 * n + (c.toNat - '0'.toNat)) 0
  if digits = [] ∨ n > maxCount then throw .badCount else return n

/-- Reads a number, white space around it allowed. -/
def readCount (flags : Flags) (cs : Chars) : Except Fault (Nat × Chars) := do
  let (digits, rest) ← readWhile flags Char.isDigit (cs.dropWhile isBlank)
  return (← countOf digits, flags.skip (rest.dropWhile isBlank))

/-- Reads the greatest count of a range behind the comma, or nothing in front of the closing brace. -/
def readUpperCount (flags : Flags) (cs : Chars) : Except Fault (Option Nat × Chars) :=
  if cs.head? = some '\x7d' then return (none, cs)
  else do
    let (max, rest) ← readCount flags cs
    return (some max, rest)

/-- Reads the greatest count of a range behind the least one. There is none if it is left out, and one
number alone is both. -/
def readMaxCount (flags : Flags) (min : Nat) (cs : Chars) : Except Fault (Option Nat × Chars) :=
  match after? ',' cs with
  | some r => readUpperCount flags (flags.skip r)
  | none => return (some min, cs)

/-- A range of counts, which has to be in order. -/
def countRange (min : Nat) (max : Option Nat) : Except Fault (Nat × Option Nat) :=
  if max.all (min ≤ ·) then return (min, max) else throw .badCount

/-- Reads a range of counts behind its opening brace: one number, or a least number and, unless it is
left out, a greatest one. -/
def readCounts (flags : Flags) (cs : Chars) : Except Fault ((Nat × Option Nat) × Chars) := do
  let (min, rest) ← readCount flags (flags.skip cs)
  let (max, rest) ← readMaxCount flags min rest
  let (_, rest) ← readChar '\x7d' .badCount rest
  return (← countRange min max, rest)

end Advisory.Pattern
