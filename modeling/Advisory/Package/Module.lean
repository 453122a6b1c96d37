import Advisory.Order

/-!
# Module streams

A module is a set of packages built together, and a stream of it is a line of versions that a system
follows. A request names the streams a system has enabled; an erratum lists the builds it ships.
-/

namespace Advisory

/-- A stream of a module. Many builds share one, and the snapshot numbers each build. -/
structure ModuleStream where
  module : String
  stream : String
deriving DecidableEq, Repr

namespace ModuleStream

/-- Streams are ordered by module, then by stream, both by code point. -/
instance : Ord ModuleStream where
  compare := compareLex (compareOn module) (compareOn stream)

instance : Std.TransOrd ModuleStream :=
  inferInstanceAs (Std.TransCmp (compareLex (compareOn module) (compareOn stream)))

instance : Std.LawfulEqOrd ModuleStream where
  eq_of_compare {a b} h := by
    obtain ⟨am, as⟩ := a
    obtain ⟨bm, bs⟩ := b
    obtain ⟨h1, h2⟩ := compareLex_compareOn_eq.1 h
    cases Std.LawfulEqCmp.eq_of_compare h1
    cases Std.LawfulEqCmp.eq_of_compare h2
    rfl

/-- The stream as people write it. -/
def render (s : ModuleStream) : String := s.module ++ ":" ++ s.stream

end ModuleStream

/-- A build of a module that an erratum ships. -/
structure ModuleBuild where
  name : String
  stream : String
  version : String
  context : String
deriving DecidableEq, Repr

end Advisory
