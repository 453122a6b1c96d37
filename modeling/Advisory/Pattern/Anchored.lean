import Advisory.Pattern.Reader
import Advisory.Pattern.Search
import Advisory.Pattern.Size

/-!
# Patterns for names

A request may give a pattern instead of names. The pattern is put between an anchor at the beginning
of the text and one at its end, as a group of its own, and a name is meant if the whole occurs in it.
A pattern that is complete in itself therefore has to match the whole name. A pattern that closes the
group and opens another one is read as the text it becomes.

A pattern whose automaton would be too large is refused. What is compared with the limit here is an
estimate: patterns far below the limit pass and patterns far above it are refused, but close to it an
engine that measures the automaton it has built may decide otherwise.
-/

namespace Advisory.Pattern

/-- The text that a pattern for names becomes. -/
def anchor (pattern : String) : List Char :=
  ['^', '(', '?', ':'] ++ pattern.toList ++ [')', '$']

/-- The expression for a pattern for names. -/
def compile (pattern : String) : Except Fault (Regex Atom) := do
  let r ← readPattern (anchor pattern)
  -- The size is an estimate, so the limit is not met to the byte.
  if r.size > maxSize then throw .tooLarge
  return r

end Advisory.Pattern
