/-!
# What can be wrong with a pattern
-/

namespace Advisory.Pattern

/-- Why a pattern is refused. -/
inductive Fault where
  /-- A group is not closed. -/
  | unclosedGroup
  /-- A group is closed that was not opened. -/
  | unopenedGroup
  /-- A bracketed class is not closed. -/
  | unclosedClass
  /-- The ends of a range in a class are out of order, or not characters. -/
  | badRange
  /-- Something stands in a class that is no set of characters. -/
  | notASet
  /-- The text ends within an escape. -/
  | unfinishedEscape
  /-- A backslash before a character that it gives no meaning. -/
  | unknownEscape
  /-- A numbered group is referred to. -/
  | backreference
  /-- A group looks ahead or behind. -/
  | lookAround
  /-- A code point is not given in hexadecimal digits, or is no character. -/
  | badCodePoint
  /-- A property of characters is not known. -/
  | unknownProperty
  /-- The name of a group is empty, malformed or taken. -/
  | badGroupName
  /-- A flag is unknown, repeated, or missing after a dash. -/
  | badFlags
  /-- There is nothing to repeat. -/
  | nothingToRepeat
  /-- A count of repetitions is not a range of numbers in braces. -/
  | badCount
  /-- A word boundary in braces is not closed or not known. -/
  | badWordBoundary
  /-- Matching by byte is asked for where it could split a character. -/
  | splitsCharacters
  /-- A property is asked for where characters are matched by byte. -/
  | propertyOfBytes
  /-- Groups, repetitions and classes stand inside each other too deep. -/
  | tooDeep
  /-- The pattern describes an automaton of too many states. -/
  | tooLarge
deriving DecidableEq, Repr

end Advisory.Pattern
