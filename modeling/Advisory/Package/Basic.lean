import Advisory.Order

/-!
# Package identifiers

A package is named by its name, its version and the architecture it was built for. The version has
three parts: an epoch, which outranks the rest, the version proper and the release. Which of two
versions is newer is never decided from these parts; the snapshot says so. Nothing here orders
packages by age, and the order of `Evr` below is only the order in which a dictionary lists them.
-/

namespace Advisory

/-- Epoch, version and release of a package. -/
structure Evr where
  epoch : Int
  version : String
  release : String
deriving DecidableEq, Repr

namespace Evr

instance : Inhabited Evr := ⟨⟨0, "", ""⟩⟩

/-- Dictionaries list versions by epoch, then version, then release, the texts by code point. -/
instance : Ord Evr where
  compare := compareLex (compareOn epoch) (compareLex (compareOn version) (compareOn release))

instance : Std.TransOrd Evr :=
  inferInstanceAs (Std.TransCmp
    (compareLex (compareOn epoch) (compareLex (compareOn version) (compareOn release))))

instance : Std.LawfulEqOrd Evr where
  eq_of_compare {a b} h := by
    obtain ⟨ae, av, ar⟩ := a
    obtain ⟨be, bv, br⟩ := b
    have h' : ((compare ae be).then ((compare av bv).then (compare ar br))) = .eq := h
    rw [Ordering.then_eq_eq, Ordering.then_eq_eq] at h'
    obtain ⟨h1, h2, h3⟩ := h'
    cases Std.LawfulEqCmp.eq_of_compare h1
    cases Std.LawfulEqCmp.eq_of_compare h2
    cases Std.LawfulEqCmp.eq_of_compare h3
    rfl

end Evr

/-- Name, version and architecture of a package. -/
structure Nevra where
  name : String
  epoch : Int
  version : String
  release : String
  arch : String
deriving DecidableEq, Repr

namespace Nevra

def evr (n : Nevra) : Evr := ⟨n.epoch, n.version, n.release⟩

/-- The identifier of a name, a version and an architecture. -/
def ofParts (name : String) (evr : Evr) (arch : String) : Nevra :=
  ⟨name, evr.epoch, evr.version, evr.release, arch⟩

end Nevra

end Advisory
